/-!
# Partitions

A buffer is cut into contiguous runs of whole pixels, at most one for each worker and none smaller
than a given size unless it is the only one.

## Main definitions

* `ceilDiv` — a quotient rounded up.
* `Partitioning` — the number of partitions and their size.
* `Partitioning.plan` — the partitions for a number of pixels.
-/

namespace PixelMath

/-- The quotient rounded up. -/
def ceilDiv (a b : Nat) : Nat :=
  (a + b - 1) / b

/-- The quotient rounded up is the least that covers the dividend. -/
theorem ceilDiv_le_iff {a b k : Nat} (hb : 0 < b) : ceilDiv a b ≤ k ↔ a ≤ k * b := by
  rw [ceilDiv, ← Nat.lt_succ_iff, Nat.div_lt_iff_lt_mul hb, Nat.succ_mul]
  omega

theorem le_ceilDiv_mul (a : Nat) {b : Nat} (hb : 0 < b) : a ≤ ceilDiv a b * b :=
  (ceilDiv_le_iff hb).mp (Nat.le_refl _)

theorem ceilDiv_pos {a b : Nat} (ha : 0 < a) (hb : 0 < b) : 0 < ceilDiv a b := by
  refine Nat.pos_of_ne_zero fun h => ?_
  have := le_ceilDiv_mul a hb
  rw [h, Nat.zero_mul] at this
  omega

/-- How the pixels of a buffer are divided. -/
structure Partitioning where
  /-- The number of partitions. -/
  partitions : Nat
  /-- The pixels of each partition; the last one may have fewer. -/
  pixelsPerPartition : Nat
deriving DecidableEq, Repr

namespace Partitioning

/-- Divides `pixels` among at most `workers` partitions of at least `minPixels` pixels. The count
is taken again from the size that was rounded up, so no partition is empty. -/
def plan (pixels workers minPixels : Nat) : Partitioning :=
  if pixels = 0 then { partitions := 1, pixelsPerPartition := 0 }
  else
    let bySize := ceilDiv pixels (max minPixels 1)
    let wanted := min (min (max workers 1) bySize) pixels
    let size := ceilDiv pixels wanted
    { partitions := ceilDiv pixels size, pixelsPerPartition := size }

/-- The number of values in a partition of pixels with `stride` channels. -/
def chunkLength (plan : Partitioning) (stride : Nat) : Nat :=
  plan.pixelsPerPartition * stride

end Partitioning

end PixelMath
