import Mathlib.Data.Nat.Basic
import Mathlib.Order.Basic
import PixelMath.Engine.Basic

/-!
# The plan of a run

A quotient rounded up is a lower adjoint, so rounding up three times is rounding up once. For the
plan this means that the number of partitions fixes their size: many sizes cut a buffer into the
same number of pieces, but only one of them comes out of a plan. The order in which the partitions
are worked on does not matter.

## Main definitions

* `Partitioning.wanted` — the number of partitions a plan aims at.

## Main results

* `Partitioning.plan_of_pos` — the plan for some pixels as two quotients rounded up.
* `Partitioning.pixelsPerPartition_plan` — the size of partitions as a function of their number.
* `Partitioning.plan_partitions` — planning for the number of partitions of a plan changes nothing.
* `Engine.toList_execute` — working on the chunks in any order.
-/

namespace PixelMath

/-! ### Quotients rounded up -/

theorem ceilDiv_anti (a : Nat) {b c : Nat} (hb : 0 < b) (hbc : b ≤ c) :
    ceilDiv a c ≤ ceilDiv a b :=
  (ceilDiv_le_iff (hb.trans_le hbc)).mpr
    ((le_ceilDiv_mul a hb).trans (Nat.mul_le_mul_left _ hbc))

theorem ceilDiv_le_self (a : Nat) {b : Nat} (hb : 0 < b) : ceilDiv a b ≤ a :=
  (ceilDiv_le_iff hb).mpr (Nat.le_mul_of_pos_right a hb)

theorem ceilDiv_ceilDiv_le {a b : Nat} (ha : 0 < a) (hb : 0 < b) :
    ceilDiv a (ceilDiv a b) ≤ b := by
  rw [ceilDiv_le_iff (ceilDiv_pos ha hb), Nat.mul_comm]
  exact le_ceilDiv_mul a hb

/-- Rounding up three times is rounding up once. -/
theorem ceilDiv_ceilDiv_ceilDiv {a b : Nat} (ha : 0 < a) (hb : 0 < b) :
    ceilDiv a (ceilDiv a (ceilDiv a b)) = ceilDiv a b := by
  have hk : 0 < ceilDiv a (ceilDiv a b) := ceilDiv_pos ha (ceilDiv_pos ha hb)
  exact le_antisymm (ceilDiv_ceilDiv_le ha (ceilDiv_pos ha hb))
    (ceilDiv_anti a hk (ceilDiv_ceilDiv_le ha hb))

/-! ### The number and the size of partitions -/

namespace Partitioning

/-- The number of partitions a plan aims at, before sizes are rounded up to whole pixels. -/
def wanted (pixels workers minPixels : Nat) : Nat :=
  min (max workers 1) (ceilDiv pixels (max minPixels 1))

theorem wanted_pos {pixels : Nat} (hp : 0 < pixels) (workers minPixels : Nat) :
    0 < wanted pixels workers minPixels :=
  lt_min (le_max_right workers 1) (ceilDiv_pos hp (le_max_right minPixels 1))

theorem wanted_le (pixels workers minPixels : Nat) : wanted pixels workers minPixels ≤ pixels :=
  (min_le_right _ _).trans (ceilDiv_le_self pixels (le_max_right minPixels 1))

/-- A plan rounds up the size and then the number of partitions. -/
theorem plan_of_pos {pixels : Nat} (hp : 0 < pixels) (workers minPixels : Nat) :
    plan pixels workers minPixels =
      { partitions := ceilDiv pixels (ceilDiv pixels (wanted pixels workers minPixels))
        pixelsPerPartition := ceilDiv pixels (wanted pixels workers minPixels) } := by
  have hmin : min (min (max workers 1) (ceilDiv pixels (max minPixels 1))) pixels =
      wanted pixels workers minPixels := min_eq_left (wanted_le pixels workers minPixels)
  simp only [plan, if_neg hp.ne', hmin]

theorem pixelsPerPartition_pos {pixels : Nat} (hp : 0 < pixels) (workers minPixels : Nat) :
    0 < (plan pixels workers minPixels).pixelsPerPartition := by
  rw [plan_of_pos hp]
  exact ceilDiv_pos hp (wanted_pos hp workers minPixels)

theorem partitions_eq_ceilDiv {pixels : Nat} (hp : 0 < pixels) (workers minPixels : Nat) :
    (plan pixels workers minPixels).partitions =
      ceilDiv pixels (plan pixels workers minPixels).pixelsPerPartition := by
  rw [plan_of_pos hp]

/-- **The number of partitions fixes their size.** -/
theorem pixelsPerPartition_plan {pixels : Nat} (hp : 0 < pixels) (workers minPixels : Nat) :
    (plan pixels workers minPixels).pixelsPerPartition =
      ceilDiv pixels (plan pixels workers minPixels).partitions := by
  rw [plan_of_pos hp]
  exact (ceilDiv_ceilDiv_ceilDiv hp (wanted_pos hp workers minPixels)).symm

/-- Planning again for as many workers as there are partitions gives the same plan. -/
theorem plan_partitions {pixels : Nat} (hp : 0 < pixels) (workers minPixels : Nat) :
    plan pixels (plan pixels workers minPixels).partitions 1 = plan pixels workers minPixels := by
  have hsize := pixelsPerPartition_plan hp workers minPixels
  have hpos : 0 < (plan pixels workers minPixels).partitions := by
    rw [partitions_eq_ceilDiv hp]
    exact ceilDiv_pos hp (pixelsPerPartition_pos hp workers minPixels)
  have hle : (plan pixels workers minPixels).partitions ≤ pixels := by
    rw [partitions_eq_ceilDiv hp]
    exact ceilDiv_le_self pixels (pixelsPerPartition_pos hp workers minPixels)
  have hwanted : wanted pixels (plan pixels workers minPixels).partitions 1 =
      (plan pixels workers minPixels).partitions := by
    rw [wanted, max_self, max_eq_left hpos, ceilDiv, Nat.div_one, Nat.add_sub_cancel,
      min_eq_left hle]
  rw [plan_of_pos hp, hwanted, ← hsize, ← partitions_eq_ceilDiv hp]

end Partitioning

/-! ### The order of work -/

namespace Engine

/-- Chunks are changed once where the order names them and nowhere else. -/
theorem getElem?_execute {order : List Nat} (horder : order.Nodup)
    (work : Nat → List Float → List Float) (chunks : Array (List Float)) (j : Nat) :
    (execute order work chunks)[j]? =
      if j ∈ order then chunks[j]?.map (work j) else chunks[j]? := by
  induction order generalizing chunks with
  | nil => simp [execute]
  | cons i order ih =>
    obtain ⟨hi, horder⟩ := List.nodup_cons.mp horder
    have hfold : execute (i :: order) work chunks =
        execute order work (chunks.modify i (work i)) := rfl
    rw [hfold, ih horder, Array.getElem?_modify]
    by_cases hij : i = j
    · subst hij
      simp [hi]
    · simp [hij, Ne.symm hij]

/-- **The order does not matter.** Working on every chunk once, in whatever order, is mapping the
work over the chunks. -/
theorem toList_execute {order : List Nat} (chunks : Array (List Float))
    (horder : order.Perm (List.range chunks.size)) (work : Nat → List Float → List Float) :
    (execute order work chunks).toList = chunks.toList.mapIdx work := by
  refine List.ext_getElem? fun j => ?_
  have hnodup : order.Nodup := horder.nodup_iff.mpr List.nodup_range
  have hmem : j ∈ order ↔ j < chunks.size := horder.mem_iff.trans List.mem_range
  rw [Array.getElem?_toList, getElem?_execute hnodup, List.getElem?_mapIdx, Array.getElem?_toList]
  split
  · rfl
  · next hj =>
    rw [Array.getElem?_eq_none (Nat.le_of_not_lt (mt hmem.mpr hj)), Option.map_none]

end Engine

end PixelMath
