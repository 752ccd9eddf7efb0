import Mathlib.Data.Nat.Basic
import Mathlib.Order.Basic
import PixelMath.Proofs.Engine.Run
import PixelMath.Proofs.Engine.Tiling

/-!
# The number of partitions of a run

A plan aims at a partition for each worker, or for each least size that the pixels fill. It then
takes the size that this number calls for, rounded up to whole pixels, and counts the partitions of
that size. The remainder of the first division can leave the last of the partitions that it aimed
at without a pixel; these are not counted, and not worked on either. So a run may report fewer
partitions than it aimed at, but more than half of them, and where there are many pixels for a
worker it reports just as many.

## Main results

* `Partitioning.partitions_eq_wanted_iff` — when a plan has as many partitions as it aims at.
* `Partitioning.wanted_lt_two_mul_partitions` — it has more than half of them.
* `Engine.partitions_run` — the number of partitions that a run reports and works on.
* `Engine.partitions_run_ten` — ten pixels for six workers are cut into five partitions.
-/

namespace PixelMath

/-! ### The quotient by a rounded quotient -/

theorem ceilDiv_mul_lt (a : Nat) {b : Nat} (hb : 0 < b) : ceilDiv a b * b < a + b := by
  have hle : ceilDiv a b * b ≤ a + b - 1 := Nat.div_mul_le_self _ _
  omega

theorem ceilDiv_ceilDiv_eq_iff {a b : Nat} (ha : 0 < a) (hb : 0 < b) :
    ceilDiv a (ceilDiv a b) = b ↔ (b - 1) * ceilDiv a b < a := by
  have hsize : 0 < ceilDiv a b := ceilDiv_pos ha hb
  have hle : ceilDiv a (ceilDiv a b) ≤ b := ceilDiv_ceilDiv_le ha hb
  rw [← lt_ceilDiv_iff hsize]
  omega

/-- Dividing by the rounded quotient gives the divisor back if the divisor is small. -/
theorem ceilDiv_ceilDiv_eq_of_mul_lt {a b : Nat} (hb : 0 < b) (h : (b - 1) * (b - 1) < a) :
    ceilDiv a (ceilDiv a b) = b := by
  have ha : 0 < a := (Nat.zero_le _).trans_lt h
  rw [ceilDiv_ceilDiv_eq_iff ha hb]
  by_contra hge
  -- the size is at least `b`, so the pixels that `b` partitions of it miss are more than there are
  have hsize : b ≤ ceilDiv a b := by
    refine Nat.le_of_not_lt fun hlt => hge ?_
    exact (Nat.mul_le_mul_left (b - 1) (Nat.le_sub_one_of_lt hlt)).trans_lt h
  have hmost : ceilDiv a b * b < a + b := ceilDiv_mul_lt a hb
  have hsplit : ceilDiv a b * b = (b - 1) * ceilDiv a b + ceilDiv a b := by
    rw [← Nat.succ_mul, Nat.succ_eq_add_one, Nat.sub_add_cancel hb, Nat.mul_comm]
  omega

theorem lt_two_mul_ceilDiv_ceilDiv {a b : Nat} (hb : 0 < b) (hba : b ≤ a) :
    b < 2 * ceilDiv a (ceilDiv a b) := by
  have hsize : 0 < ceilDiv a b := ceilDiv_pos (hb.trans_le hba) hb
  have hcover : a ≤ ceilDiv a (ceilDiv a b) * ceilDiv a b := le_ceilDiv_mul a hsize
  have hmost : ceilDiv a b * b < a + b := ceilDiv_mul_lt a hb
  have hlt : ceilDiv a b * b < ceilDiv a b * (2 * ceilDiv a (ceilDiv a b)) := by
    rw [Nat.mul_comm (ceilDiv a b) (2 * _), Nat.mul_assoc]
    omega
  exact Nat.lt_of_mul_lt_mul_left hlt

/-! ### The number of partitions of a plan -/

namespace Partitioning

variable {pixels : Nat} (hp : 0 < pixels) (workers minPixels : Nat)

include hp

theorem wanted_eq_max_min :
    wanted pixels workers minPixels = max 1 (min workers (ceilDiv pixels (max minPixels 1))) := by
  have hpos : 1 ≤ ceilDiv pixels (max minPixels 1) := ceilDiv_pos hp (le_max_right minPixels 1)
  rw [wanted]
  omega

theorem partitions_eq_ceilDiv_ceilDiv :
    (plan pixels workers minPixels).partitions =
      ceilDiv pixels (ceilDiv pixels (wanted pixels workers minPixels)) := by
  rw [plan_of_pos hp]

/-- A plan has as many partitions as it aims at if the last of them has a pixel. -/
theorem partitions_eq_wanted_iff :
    (plan pixels workers minPixels).partitions = wanted pixels workers minPixels ↔
      (wanted pixels workers minPixels - 1) *
        ceilDiv pixels (wanted pixels workers minPixels) < pixels := by
  rw [partitions_eq_ceilDiv_ceilDiv hp]
  exact ceilDiv_ceilDiv_eq_iff hp (wanted_pos hp workers minPixels)

theorem partitions_eq_wanted_of_mul_lt
    (h : (wanted pixels workers minPixels - 1) * (wanted pixels workers minPixels - 1) < pixels) :
    (plan pixels workers minPixels).partitions = wanted pixels workers minPixels := by
  rw [partitions_eq_ceilDiv_ceilDiv hp]
  exact ceilDiv_ceilDiv_eq_of_mul_lt (wanted_pos hp workers minPixels) h

theorem wanted_lt_two_mul_partitions :
    wanted pixels workers minPixels < 2 * (plan pixels workers minPixels).partitions := by
  rw [partitions_eq_ceilDiv_ceilDiv hp]
  exact lt_two_mul_ceilDiv_ceilDiv (wanted_pos hp workers minPixels)
    (wanted_le pixels workers minPixels)

end Partitioning

/-! ### The number of partitions of a run -/

namespace Engine

/-- **The partitions of a run.** A run of a program that does something, on some whole pixels,
aims at a partition for each worker, or for each least size that the pixels fill if these are
fewer. The number that it reports, and of slices that it works on, is the number of partitions of
the rounded size that this takes. It is never more, it is more than half, and it is the same exactly
if the last partition has a pixel at this size, such as where the square of the other workers is
below the number of pixels. -/
theorem partitions_run (c : Config) (host : Host) (p : Program) (buffer : List Float)
    (hp : ¬p.isEmpty) (hne : buffer ≠ []) (hb : buffer.length % p.format.channels = 0) :
    let pixels := buffer.length / p.format.channels
    let workers := if c.threads = 0 then host.workers else c.threads
    let aim := max 1 (min workers (ceilDiv pixels (max c.minPartitionPixels 1)))
    ∃ stats, (run c host p buffer).outcome = .ok stats ∧
      stats.pixels = pixels ∧
      stats.partitions = ceilDiv pixels (ceilDiv pixels aim) ∧
      (groups ((plan c host pixels).chunkLength p.format.channels) buffer).length =
        stats.partitions ∧
      stats.partitions ≤ aim ∧ aim < 2 * stats.partitions ∧
      (stats.partitions = aim ↔ (aim - 1) * ceilDiv pixels aim < pixels) ∧
      ((aim - 1) * (aim - 1) < pixels → stats.partitions = aim) := by
  intro pixels workers aim
  have hs : 0 < p.format.channels := p.format.channels_pos
  have hpixels : 0 < pixels := Nat.div_pos (le_length_of_whole hne hb) hs
  have haim : Partitioning.wanted pixels (c.workers host) c.minPartitionPixels = aim :=
    Partitioning.wanted_eq_max_min hpixels _ _
  have hlength : buffer.length = pixels * p.format.channels :=
    (Nat.div_mul_cancel (Nat.dvd_of_mod_eq_zero hb)).symm
  refine ⟨{ pixels, partitions := (plan c host pixels).partitions }, ?_, rfl, ?_, ?_, ?_, ?_, ?_,
    ?_⟩
  · rw [run_of_whole c host p hb, if_neg (not_or.mpr ⟨hpixels.ne', hp⟩)]
  · rw [← haim]
    exact Partitioning.partitions_eq_ceilDiv_ceilDiv hpixels _ _
  · exact Partitioning.length_groups_chunkLength hpixels _ _ hs hlength
  · rw [← haim]
    exact Partitioning.partitions_le_wanted hpixels _ _
  · rw [← haim]
    exact Partitioning.wanted_lt_two_mul_partitions hpixels _ _
  · rw [← haim]
    exact Partitioning.partitions_eq_wanted_iff hpixels _ _
  · rw [← haim]
    exact Partitioning.partitions_eq_wanted_of_mul_lt hpixels _ _

/-- Three red, green and blue pixels are cut into the two partitions that are aimed at, the last of
them with one pixel. -/
theorem partitions_run_three :
    let p : Program := { format := .rgb, instructions := [⟨.channel 0, .set, .literal 1⟩] }
    let buffer : List Float := List.replicate 9 0
    ¬p.isEmpty ∧ buffer ≠ [] ∧ buffer.length % p.format.channels = 0 ∧
      (run { threads := 2, minPartitionPixels := 1 } {} p buffer).outcome =
        .ok { pixels := 3, partitions := 2 } := by
  intro p buffer
  have hp : ¬p.isEmpty := by decide
  have hne : buffer ≠ [] := List.cons_ne_nil _ _
  have hb : buffer.length % p.format.channels = 0 := by decide
  obtain ⟨⟨pixels, partitions⟩, hr, hpixels, -, -, -, -, -, hcount⟩ :=
    partitions_run { threads := 2, minPartitionPixels := 1 } {} p buffer hp hne hb
  have hpixels : pixels = 3 := hpixels.trans (by decide)
  have hcount : partitions = 2 := (hcount (by decide)).trans (by decide)
  exact ⟨hp, hne, hb, by rw [hr, hpixels, hcount]⟩

/-- Ten red, green and blue pixels are aimed at six partitions, one for each worker. But six of them
need two pixels each, and five such partitions hold all of the pixels. -/
theorem partitions_run_ten :
    let c : Config := { threads := 6, minPartitionPixels := 1 }
    let host : Host := {}
    let p : Program := { format := .rgb, instructions := [⟨.channel 0, .set, .literal 1⟩] }
    let buffer : List Float := List.replicate 30 0
    let pixels := buffer.length / p.format.channels
    let workers := if c.threads = 0 then host.workers else c.threads
    let aim := max 1 (min workers (ceilDiv pixels (max c.minPartitionPixels 1)))
    ¬p.isEmpty ∧ buffer.length % p.format.channels = 0 ∧ pixels = 10 ∧ aim = 6 ∧
      (run c host p buffer).outcome = .ok { pixels := 10, partitions := 5 } := by
  intro c host p buffer pixels workers aim
  have hpixels : pixels = 10 := by decide
  have hb : buffer.length % p.format.channels = 0 := by decide
  have hplan : (plan c host 10).partitions = 5 := by decide
  have hsome : ¬(10 = 0 ∨ p.isEmpty) := by decide
  refine ⟨by decide, hb, hpixels, by decide, ?_⟩
  rw [run_of_whole c host p hb, show buffer.length / p.format.channels = 10 from hpixels,
    if_neg hsome, hplan]

end Engine

end PixelMath
