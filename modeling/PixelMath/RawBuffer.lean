import PixelMath.Groups

/-!
# Raw buffers

A raw buffer is a file of doubles: eight bytes each, the lowest first, and nothing else.

## Main definitions

* `RawBuffer.encode` — the bytes of some doubles.
* `RawBuffer.decode` — the doubles of some bytes.
-/

namespace PixelMath.RawBuffer

/-- Bytes that are no raw buffer, because their number is not a multiple of eight. -/
structure Ragged where
  length : Nat
deriving DecidableEq, Repr

/-- The text of the error. -/
def Ragged.message (e : Ragged) : String :=
  s!"length {e.length} is not a multiple of 8 bytes"

/-- The lowest `n` bytes of a word, lowest first. -/
def toBytes : Nat → UInt64 → List UInt8
  | 0, _ => []
  | n + 1, w => w.toUInt8 :: toBytes n (w / 256)

/-- The word with the given bytes, lowest first. -/
def ofBytes (bytes : List UInt8) : UInt64 :=
  bytes.foldr (fun b w => w * 256 + b.toUInt64) 0

@[simp] theorem length_toBytes (n : Nat) (w : UInt64) : (toBytes n w).length = n := by
  induction n generalizing w with
  | zero => rfl
  | succ n ih => rw [toBytes, List.length_cons, ih]

/-- The bytes of some doubles. -/
def encode (values : List Float) : List UInt8 :=
  values.flatMap fun x => toBytes 8 x.toBits

theorem length_encode (values : List Float) : (encode values).length = 8 * values.length := by
  induction values with
  | nil => rfl
  | cons x xs ih =>
    rw [encode, List.flatMap_cons, List.length_append, length_toBytes, ← encode, ih,
      List.length_cons, Nat.mul_succ, Nat.add_comm]

/-- The doubles of some bytes. -/
def decode (bytes : List UInt8) : Except Ragged (List Float) :=
  if bytes.length % 8 = 0 then
    .ok ((wholeGroups 8 bytes).map fun group => Float.ofBits (ofBytes group))
  else .error { length := bytes.length }

end PixelMath.RawBuffer
