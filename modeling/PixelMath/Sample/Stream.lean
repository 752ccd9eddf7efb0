import PixelMath.Sample.Block

/-!
# Random samples

A seed determines an endless stream of samples from `[0, 1)`. Sample `n` is a function of the seed
and of `n`, so a reader of the stream is described by how many samples it has taken.

## Main definitions

* `Sample.Stream` — the samples by their number.
* `Sample.Key.ofSeed` — the key that a seed expands to.
* `Sample.stream` — the samples of a key.
-/

namespace PixelMath.Sample

/-- The samples of a generator by their number. -/
abbrev Stream : Type := Nat → Float

namespace Key

/-- One step of the linear congruential generator that expands a seed. -/
def advance (s : UInt64) : UInt64 :=
  s * 6364136223846793005 + 11634580027462260723

/-- The word that a state of the expansion gives: its high bits, mixed and rotated by the topmost
ones. -/
def word (s : UInt64) : UInt32 :=
  let x := (((s >>> 18) ^^^ s) >>> 27).toUInt32
  let n := (s >>> 59).toUInt32
  (x >>> n) ||| (x <<< ((32 - n) % 32))

/-- The key that a seed expands to. -/
def ofSeed (seed : UInt64) : Key :=
  Vector.ofFn fun i => word (Nat.repeat advance (i.val + 1) seed)

end Key

/-- Sample `n` of the stream of a key: two words of a block make 64 bits, of which the upper 53 are
read as a fraction. -/
def stream (key : Key) : Stream := fun n =>
  let words := block key (UInt64.ofNat (n / 8))
  let i := 2 * (n % 8)
  have hi : i + 1 < 16 := by omega
  let u := words[i].toUInt64 ||| (words[i + 1].toUInt64 <<< 32)
  (u >>> 11).toFloat / 9007199254740992

end PixelMath.Sample
