import Mathlib.Data.Nat.Basic
import Mathlib.Order.Basic
import PixelMath.Proofs.Engine.Partition

/-!
# Operations that can fail

A divisor may be zero, a number may be past the largest word, a list may be cut into groups of no
elements, and an index may be out of range. The operations of this file report such a fault, where
those of the engine have some value all the same. A computation that is carried out in them and
comes to an end has met no fault on its way.

## Main definitions

* `Fault` — what can go wrong.
* `checkedDiv`, `checkedMod`, `checkedAdd`, `checkedMul`, `checkedCeilDiv` — arithmetic on words.
* `checkedGet`, `groupSize` — lists.
* `Partitioning.checkedPlan` — the plan of a run.

## Main results

* `checkedCeilDiv_eq` — a quotient rounded up neither divides by zero nor overflows.
* `Partitioning.checkedPlan_eq` — nor does a plan, for whatever settings.
-/

namespace PixelMath

universe u v

/-- What can go wrong in an operation. -/
inductive Fault where
  /-- The divisor is zero. -/
  | divisionByZero
  /-- The result is past the largest word. -/
  | overflow
  /-- The groups have no elements. -/
  | emptyGroups
  /-- The index is not below the length. -/
  | outOfRange
deriving DecidableEq, Repr

@[simp] theorem ok_bind {ε : Type u} {α β : Type v} (a : α) (f : α → Except ε β) :
    (Except.ok a >>= f) = f a := rfl

/-! ### Arithmetic -/

/-- The quotient rounded down. -/
def checkedDiv (a b : Nat) : Except Fault Nat :=
  if b = 0 then .error .divisionByZero else .ok (a / b)

/-- The remainder. -/
def checkedMod (a b : Nat) : Except Fault Nat :=
  if b = 0 then .error .divisionByZero else .ok (a % b)

/-- The number itself, if it fits a word. -/
def checkedWord (n : Nat) : Except Fault Nat :=
  if n < sizeLimit then .ok n else .error .overflow

/-- The sum of two words. -/
def checkedAdd (a b : Nat) : Except Fault Nat :=
  checkedWord (a + b)

/-- The product of two words. -/
def checkedMul (a b : Nat) : Except Fault Nat :=
  checkedWord (a * b)

/-- The quotient rounded up, from the quotient rounded down and the remainder. -/
def checkedCeilDiv (a b : Nat) : Except Fault Nat := do
  let quotient ← checkedDiv a b
  let remainder ← checkedMod a b
  if remainder = 0 then return quotient
  checkedAdd quotient 1

variable {a b : Nat}

theorem checkedDiv_eq (hb : 0 < b) : checkedDiv a b = .ok (a / b) :=
  if_neg hb.ne'

theorem checkedMod_eq (hb : 0 < b) : checkedMod a b = .ok (a % b) :=
  if_neg hb.ne'

theorem checkedMul_eq (h : a * b < sizeLimit) : checkedMul a b = .ok (a * b) :=
  if_pos h

/-- A quotient is rounded up by one where there is a remainder. -/
theorem ceilDiv_eq (a : Nat) (hb : 0 < b) :
    ceilDiv a b = if a % b = 0 then a / b else a / b + 1 := by
  have hdiv := Nat.div_add_mod' a b
  refine eq_of_forall_ge_iff fun k => ?_
  rw [ceilDiv_le_iff hb]
  split
  · next hmod =>
    rw [hmod, Nat.add_zero] at hdiv
    have hmul : a / b * b ≤ k * b ↔ a / b ≤ k := Nat.mul_le_mul_right_iff hb
    rw [← hmul, hdiv]
  · next hmod =>
    have hlt := Nat.mod_lt a hb
    rcases Nat.lt_or_ge (a / b) k with hk | hk
    · have := Nat.mul_le_mul_right b hk
      rw [Nat.succ_mul] at this
      omega
    · have := Nat.mul_le_mul_right b hk
      omega

theorem checkedCeilDiv_eq (ha : a < sizeLimit) (hb : 0 < b) :
    checkedCeilDiv a b = .ok (ceilDiv a b) := by
  have hle : ceilDiv a b < sizeLimit := (ceilDiv_le_self a hb).trans_lt ha
  rw [ceilDiv_eq a hb] at hle ⊢
  simp only [checkedCeilDiv, checkedDiv_eq hb, checkedMod_eq hb, ok_bind]
  split
  · rfl
  · next hmod =>
    rw [if_neg hmod] at hle
    exact if_pos hle

/-! ### Lists -/

variable {α : Type u} {xs : List α} {i n : Nat}

/-- The element with the given number. -/
def checkedGet (xs : List α) (i : Nat) : Except Fault α :=
  match xs[i]? with
  | some x => .ok x
  | none => .error .outOfRange

/-- The number of elements as the size of groups. -/
def groupSize (n : Nat) : Except Fault Nat :=
  if n = 0 then .error .emptyGroups else .ok n

theorem checkedGet_eq (h : i < xs.length) : checkedGet xs i = .ok xs[i] := by
  rw [checkedGet, List.getElem?_eq_getElem h]

theorem groupSize_eq (hn : 0 < n) : groupSize n = .ok n :=
  if_neg hn.ne'

/-! ### Plans -/

namespace Partitioning

/-- Divides `pixels` among at most `workers` partitions of at least `minPixels` pixels. -/
def checkedPlan (pixels workers minPixels : Nat) : Except Fault Partitioning := do
  if pixels = 0 then return { partitions := 1, pixelsPerPartition := 0 }
  let bySize ← checkedCeilDiv pixels (max minPixels 1)
  let wanted := min (min (max workers 1) bySize) pixels
  let size ← checkedCeilDiv pixels wanted
  return { partitions := ← checkedCeilDiv pixels size, pixelsPerPartition := size }

/-- **A plan meets no fault**, however many pixels, workers and pixels of a partition there are. -/
theorem checkedPlan_eq {pixels : Nat} (hp : pixels < sizeLimit) (workers minPixels : Nat) :
    checkedPlan pixels workers minPixels = .ok (plan pixels workers minPixels) := by
  rcases Nat.eq_zero_or_pos pixels with rfl | hpos
  · rfl
  · have hmin : 0 < max minPixels 1 := le_max_right minPixels 1
    have hwanted : 0 < min (min (max workers 1) (ceilDiv pixels (max minPixels 1))) pixels :=
      lt_min (wanted_pos hpos workers minPixels) hpos
    simp only [checkedPlan, plan, if_neg hpos.ne', checkedCeilDiv_eq hp hmin,
      checkedCeilDiv_eq hp hwanted, checkedCeilDiv_eq hp (ceilDiv_pos hpos hwanted), ok_bind]
    rfl

end Partitioning

end PixelMath
