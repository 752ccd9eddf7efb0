import Mathlib.Data.Nat.Basic
import Mathlib.Order.Basic
import PixelMath.Proofs.Checked
import PixelMath.Proofs.Groups

/-!
# Partitions tile a buffer

A plan takes the least size of partitions that needs no more of them than it aims at, and counts the
partitions of this size. So their number is within the bound, none is empty, and only the last one
can be shorter than the others; and where there are several, each but the last has more than half of
the pixels that a worker is worth. Cutting a buffer at this size gives as many slices as the plan
says, one behind the other, each of whole pixels.

## Main results

* `Partitioning.partitions_le_wanted`, `Partitioning.le_partitions_mul`,
  `Partitioning.pred_partitions_mul_lt` — the number of partitions.
* `Partitioning.pixelsPerPartition_le_of_ceilDiv_le` — their size is the least one.
* `Partitioning.lt_two_mul_of_one_lt` — it is not much below the least size that is asked for.
* `Partitioning.getElem?_groups_chunkLength` — the slices of a buffer.
* `Partitioning.plan_tiles` — all of this in one statement.
-/

namespace PixelMath.Partitioning

universe u

variable {pixels : Nat} (hp : 0 < pixels) (workers minPixels : Nat)

include hp

/-! ### The number of partitions -/

theorem partitions_pos : 0 < (plan pixels workers minPixels).partitions := by
  rw [partitions_eq_ceilDiv hp]
  exact ceilDiv_pos hp (pixelsPerPartition_pos hp workers minPixels)

theorem partitions_le_wanted :
    (plan pixels workers minPixels).partitions ≤ wanted pixels workers minPixels := by
  rw [plan_of_pos hp]
  exact ceilDiv_ceilDiv_le hp (wanted_pos hp workers minPixels)

/-- The partitions hold every pixel. -/
theorem le_partitions_mul :
    pixels ≤ (plan pixels workers minPixels).partitions *
      (plan pixels workers minPixels).pixelsPerPartition := by
  rw [partitions_eq_ceilDiv hp]
  exact le_ceilDiv_mul pixels (pixelsPerPartition_pos hp workers minPixels)

/-- Partition `k` starts at a pixel if and only if there is a partition `k`. -/
theorem lt_partitions_iff {k : Nat} :
    k < (plan pixels workers minPixels).partitions ↔
      k * (plan pixels workers minPixels).pixelsPerPartition < pixels := by
  rw [partitions_eq_ceilDiv hp, lt_ceilDiv_iff (pixelsPerPartition_pos hp workers minPixels)]

/-- The last partition has a pixel. -/
theorem pred_partitions_mul_lt :
    ((plan pixels workers minPixels).partitions - 1) *
      (plan pixels workers minPixels).pixelsPerPartition < pixels := by
  rw [← lt_partitions_iff hp]
  exact Nat.sub_lt (partitions_pos hp workers minPixels) Nat.one_pos

/-! ### The size of partitions -/

theorem pixelsPerPartition_le : (plan pixels workers minPixels).pixelsPerPartition ≤ pixels := by
  rw [plan_of_pos hp]
  exact ceilDiv_le_self pixels (wanted_pos hp workers minPixels)

/-- No smaller size gets along with as many partitions as the plan aims at. -/
theorem pixelsPerPartition_le_of_ceilDiv_le {size : Nat} (hsize : 0 < size)
    (h : ceilDiv pixels size ≤ wanted pixels workers minPixels) :
    (plan pixels workers minPixels).pixelsPerPartition ≤ size := by
  rw [ceilDiv_le_iff hsize] at h
  rw [plan_of_pos hp]
  exact (ceilDiv_le_iff (wanted_pos hp workers minPixels)).mpr (Nat.mul_comm _ size ▸ h)

/-- Where there are several partitions, two of them hold more than the least number of pixels. -/
theorem lt_two_mul_of_one_lt (h : 1 < (plan pixels workers minPixels).partitions) :
    minPixels < 2 * (plan pixels workers minPixels).pixelsPerPartition := by
  have hmin : 0 < max minPixels 1 := le_max_right minPixels 1
  have hbound : wanted pixels workers minPixels ≤ ceilDiv pixels (max minPixels 1) :=
    min_le_right _ _
  have hseveral : 1 < ceilDiv pixels (max minPixels 1) :=
    h.trans_le ((partitions_le_wanted hp workers minPixels).trans hbound)
  -- all but one of the partitions of the least size are full, and that is at least half of them
  have hfull : (ceilDiv pixels (max minPixels 1) - 1) * max minPixels 1 < pixels :=
    (lt_ceilDiv_iff hmin).mp (Nat.sub_lt (Nat.one_pos.trans hseveral) Nat.one_pos)
  have hcover : pixels ≤ (plan pixels workers minPixels).pixelsPerPartition *
      ceilDiv pixels (max minPixels 1) := by
    rw [plan_of_pos hp]
    exact (le_ceilDiv_mul pixels (wanted_pos hp workers minPixels)).trans
      (Nat.mul_le_mul_left _ hbound)
  generalize (plan pixels workers minPixels).pixelsPerPartition = size at hcover ⊢
  generalize ceilDiv pixels (max minPixels 1) = count at hseveral hfull hcover
  by_contra hle
  have hhalf : 2 * size ≤ max minPixels 1 := (Nat.le_of_not_lt hle).trans (le_max_left _ _)
  have htwice : 2 * (size * count) ≤ max minPixels 1 * count := by
    rw [← Nat.mul_assoc]
    exact Nat.mul_le_mul_right count hhalf
  have hmost : max minPixels 1 * count ≤ 2 * ((count - 1) * max minPixels 1) := by
    rw [Nat.mul_comm (count - 1), ← Nat.mul_assoc, Nat.mul_comm 2, Nat.mul_assoc]
    exact Nat.mul_le_mul_left _ (by omega)
  omega

/-! ### The slices of a buffer -/

variable {α : Type u} {stride : Nat} {buffer : List α}

theorem chunkLength_pos (hs : 0 < stride) :
    0 < (plan pixels workers minPixels).chunkLength stride :=
  Nat.mul_pos (pixelsPerPartition_pos hp workers minPixels) hs

/-- Slice `k` of a buffer starts behind the slices before it, and has whole pixels: as many as a
partition has, or those that are left. -/
theorem getElem?_groups_chunkLength (hs : 0 < stride) (hb : buffer.length = pixels * stride)
    {k : Nat} (hk : k < (plan pixels workers minPixels).partitions) :
    ∃ slice, (groups ((plan pixels workers minPixels).chunkLength stride) buffer)[k]? = some slice ∧
      slice = (buffer.drop (k * (plan pixels workers minPixels).chunkLength stride)).take
        ((plan pixels workers minPixels).chunkLength stride) ∧
      slice.length = min (plan pixels workers minPixels).pixelsPerPartition
        (pixels - k * (plan pixels workers minPixels).pixelsPerPartition) * stride := by
  have hstart : k * (plan pixels workers minPixels).chunkLength stride < buffer.length := by
    rw [hb, chunkLength, ← Nat.mul_assoc]
    exact Nat.mul_lt_mul_of_pos_right ((lt_partitions_iff hp workers minPixels).mp hk) hs
  refine ⟨_, ?_, rfl, ?_⟩
  · rw [getElem?_groups (chunkLength_pos hp workers minPixels hs), if_pos hstart]
  · rw [List.length_take, List.length_drop, hb, chunkLength, ← Nat.mul_assoc, ← Nat.sub_mul,
      Nat.mul_min_mul_right]

theorem length_groups_chunkLength (hs : 0 < stride) (hb : buffer.length = pixels * stride) :
    (groups ((plan pixels workers minPixels).chunkLength stride) buffer).length =
      (plan pixels workers minPixels).partitions := by
  refine eq_of_forall_lt_iff fun k => ?_
  rw [length_groups (chunkLength_pos hp workers minPixels hs),
    lt_ceilDiv_iff (chunkLength_pos hp workers minPixels hs), lt_partitions_iff hp, hb, chunkLength,
    ← Nat.mul_assoc, Nat.mul_lt_mul_right hs]

omit hp

/-- **A plan tiles a buffer.** Making it meets no fault. There is a partition at least, and no more
of them than workers, nor than the least size allows; a partition has a pixel at least; all of them
but the last are full, and the last one has a pixel; no smaller size needs so few partitions; and
where there are several, their size is more than half of the least size that is asked for. The
length of a slice is a word if that of the buffer is, and cutting the buffer at this length gives
one slice of whole pixels for each partition, in their order, which make up the buffer. -/
theorem plan_tiles (hp : 0 < pixels) (hword : pixels < sizeLimit) (workers minPixels : Nat) :
    let k := (plan pixels workers minPixels).partitions
    let q := (plan pixels workers minPixels).pixelsPerPartition
    let bound := min (max workers 1) (ceilDiv pixels (max minPixels 1))
    checkedPlan pixels workers minPixels = .ok (plan pixels workers minPixels) ∧
      1 ≤ k ∧ k ≤ bound ∧ 1 ≤ q ∧ q ≤ pixels ∧ (k - 1) * q < pixels ∧ pixels ≤ k * q ∧
      ceilDiv pixels q ≤ bound ∧ (∀ size, 0 < size → ceilDiv pixels size ≤ bound → q ≤ size) ∧
      (1 < k → minPixels < 2 * q) ∧
      ∀ stride, 1 ≤ stride → pixels * stride < sizeLimit →
        checkedMul q stride = .ok ((plan pixels workers minPixels).chunkLength stride) ∧
        ∀ {α : Type u} (buffer : List α), buffer.length = pixels * stride →
          let slices := groups ((plan pixels workers minPixels).chunkLength stride) buffer
          slices.length = k ∧ slices.flatten = buffer ∧
            ∀ i < k, ∃ slice, slices[i]? = some slice ∧
              slice = (buffer.drop (i * (q * stride))).take (q * stride) ∧
              slice.length = min q (pixels - i * q) * stride := by
  refine ⟨checkedPlan_eq hword workers minPixels, partitions_pos hp workers minPixels,
    partitions_le_wanted hp workers minPixels, pixelsPerPartition_pos hp workers minPixels,
    pixelsPerPartition_le hp workers minPixels, pred_partitions_mul_lt hp workers minPixels,
    le_partitions_mul hp workers minPixels, ?_,
    fun size hsize => pixelsPerPartition_le_of_ceilDiv_le hp workers minPixels hsize,
    lt_two_mul_of_one_lt hp workers minPixels, fun stride hs hvalues => ⟨?_, fun buffer hb =>
      ⟨length_groups_chunkLength hp workers minPixels hs hb, ?_, fun i hi =>
        getElem?_groups_chunkLength hp workers minPixels hs hb hi⟩⟩⟩
  · rw [← partitions_eq_ceilDiv hp]
    exact partitions_le_wanted hp workers minPixels
  · refine checkedMul_eq ((Nat.mul_le_mul_right stride ?_).trans_lt hvalues)
    exact pixelsPerPartition_le hp workers minPixels
  · exact flatten_groups (chunkLength_pos hp workers minPixels hs).ne' buffer

/-- Six workers get five partitions of ten pixels, and the largest buffer is cut into single pixels
for as many workers. -/
theorem plan_tiles_ten :
    plan 10 6 0 = { partitions := 5, pixelsPerPartition := 2 } ∧
      checkedPlan 10 6 0 = .ok { partitions := 5, pixelsPerPartition := 2 } ∧
      (∀ size, 0 < size → ceilDiv 10 size ≤ 6 → 2 ≤ size) ∧
      (groups 6 (List.range 30)).length = 5 ∧ (groups 6 (List.range 30)).flatten = List.range 30 ∧
      checkedPlan (sizeLimit - 1) (sizeLimit - 1) 0 =
        .ok { partitions := sizeLimit - 1, pixelsPerPartition := 1 } := by
  have hten := plan_tiles (by decide : 0 < 10) (by decide) 6 0
  have hmost := plan_tiles.{0} (by decide : 0 < sizeLimit - 1) (by decide) (sizeLimit - 1) 0
  obtain ⟨hcheck, -, -, -, -, -, -, -, hleast, -, hslices⟩ := hten
  obtain ⟨hlength, hjoin, -⟩ := (hslices 3 (by decide) (by decide)).2 (List.range 30) (by simp)
  exact ⟨by decide, hcheck, hleast, hlength, hjoin, hmost.1⟩

end PixelMath.Partitioning
