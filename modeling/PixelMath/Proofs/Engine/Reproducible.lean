import PixelMath.Proofs.Engine.Run

/-!
# What the outcome of a run depends on

Workers, the order in which they finish and the sizes of partitions are no part of a program. A
program without `rand` is applied to every pixel alone, so none of them can be seen in its outcome.
A program with `rand` sees where partitions begin, since each has samples of its own; under a seed
it sees nothing else, and that is fixed by the number of partitions.

## Main definitions

* `SampleAddress` — a partition and a number in its stream of samples.
* `seededSample` — the number that a random operand receives under a seed.

## Main results

* `Engine.run_of_not_usesRandom` — a program without `rand` is a map over the pixels.
* `Engine.run_of_seed` — the samples that each pixel receives under a seed.
* `Engine.run_eq_of_partitions_eq` — under a seed, the number of partitions fixes the outcome.
-/

namespace PixelMath

/-- The place of a sample: a partition, and a number in the stream of that partition. -/
structure SampleAddress where
  partition : Nat
  number : Nat

namespace SampleAddress

/-- The place of the sample that random operand `r` of pixel `k` receives, in partitions of `size`
pixels that take `count` samples each. -/
def ofPixel (size count k r : Nat) : SampleAddress where
  partition := k / size
  number := k % size * count + r

variable {size count : Nat}

/-- No sample is received twice. -/
theorem ofPixel_inj {k r k' r' : Nat} (hr : r < count) (hr' : r' < count)
    (h : ofPixel size count k r = ofPixel size count k' r') : k = k' ∧ r = r' := by
  obtain ⟨hpartition, hnumber⟩ := SampleAddress.mk.inj h
  have hcount : 0 < count := Nat.zero_lt_of_lt hr
  have hpixel : k % size = k' % size := by
    have hdiv := congrArg (· / count) hnumber
    simpa only [Nat.mul_comm _ count, Nat.mul_add_div hcount, Nat.div_eq_of_lt hr,
      Nat.div_eq_of_lt hr', Nat.add_zero] using hdiv
  refine ⟨?_, Nat.add_left_cancel (hpixel ▸ hnumber)⟩
  rw [← Nat.div_add_mod k size, ← Nat.div_add_mod k' size, hpartition, hpixel]

/-- No sample is skipped: those that some pixel receives are the first ones of each partition, as
many as its pixels need. -/
theorem exists_ofPixel_iff (hsize : 0 < size) {pixels : Nat} (a : SampleAddress) :
    (∃ k r, k < pixels ∧ r < count ∧ ofPixel size count k r = a) ↔
      a.partition < ceilDiv pixels size ∧
        a.number < min size (pixels - a.partition * size) * count := by
  rw [lt_ceilDiv_iff hsize]
  constructor
  · rintro ⟨k, r, hk, hr, rfl⟩
    have hdiv := Nat.div_mul_le_self k size
    have hmod := Nat.mod_lt k hsize
    have hadd := Nat.div_add_mod' k size
    have hpixel : k % size + 1 ≤ min size (pixels - k / size * size) := by omega
    have hle := Nat.mul_le_mul_right count hpixel
    rw [Nat.succ_mul] at hle
    simp only [ofPixel]
    omega
  · obtain ⟨partition, number⟩ := a
    rintro ⟨hpartition, hnumber⟩
    simp only at hpartition hnumber
    have hcount : 0 < count := Nat.pos_of_ne_zero fun h => by simp [h] at hnumber
    have hpixel : number / count < min size (pixels - partition * size) :=
      Nat.div_lt_of_lt_mul (by rwa [Nat.mul_comm])
    have hlt : number / count < size := hpixel.trans_le (min_le_left _ _)
    refine ⟨partition * size + number / count, number % count, by omega, Nat.mod_lt _ hcount, ?_⟩
    rw [ofPixel, Nat.mul_comm partition, Nat.mul_add_div hsize, Nat.div_eq_of_lt hlt,
      Nat.mul_add_mod, Nat.mod_eq_of_lt hlt, Nat.add_zero, Nat.div_add_mod']

end SampleAddress

/-- The number that random operand `r` of pixel `k` receives under a seed, in partitions of `size`
pixels that take `count` samples each: partition `j` has the stream of the seed `j` places further
on, counted modulo `2 ^ 64`. -/
def seededSample (seed : UInt64) (size count k r : Nat) : Float :=
  let address := SampleAddress.ofPixel size count k r
  Sample.stream (.ofSeed (UInt64.ofNat (seed.toNat + address.partition))) address.number

namespace Engine

variable {c c' : Config} {seed : UInt64} (host host' : Host) (p : Program) {buffer : List Float}

theorem samples_of_seed (hseed : c.seed? = some seed) (j : Nat) :
    c.samples host j = Sample.stream (.ofSeed (UInt64.ofNat (seed.toNat + j))) := by
  rw [Config.samples, hseed, UInt64.ofNat_add, UInt64.ofNat_toNat]

/-- Under a seed, the pixels after a run are those of the program with the samples written in. -/
theorem pixelsAfter_of_seed (hseed : c.seed? = some seed) (other : Sample.Stream) :
    pixelsAfter c host p buffer =
      (groups p.format.channels buffer).mapIdx fun k pixel =>
        ((p.supply (seededSample seed
          (plan c host (buffer.length / p.format.channels)).pixelsPerPartition
          p.randomCount k)).runPixel other pixel {}).1 := by
  refine List.ext_getElem? fun k => ?_
  rw [pixelsAfter, List.getElem?_mapIdx, List.getElem?_mapIdx]
  refine congrArg (Option.map · _) (funext fun pixel => ?_)
  rw [← p.runPixel_supply _ _ _ other {}, samples_of_seed host hseed]
  rfl

/-- **A program without `rand` is a map over the pixels.** On a buffer of whole pixels its run
succeeds and leaves the pixels that the program makes of each of them alone, in their order. It is
the same for all settings, machines and orders of work, and works on every pixel once. -/
theorem run_of_not_usesRandom (c : Config) {p : Program} (hp : p.usesRandom = false)
    (hb : buffer.length % p.format.channels = 0) (samples : Sample.Stream) (carry : Carry) :
    (∃ partitions, (run c host p buffer).outcome =
        .ok { pixels := buffer.length / p.format.channels, partitions }) ∧
      (run c host p buffer).buffer =
        ((groups p.format.channels buffer).map fun pixel =>
          (p.runPixel samples pixel carry).1).flatten ∧
      (∀ c' host', (run c' host' p buffer).buffer = (run c host p buffer).buffer) ∧
      (visits host p.format.channels (plan c host (buffer.length / p.format.channels))
          buffer).Perm (List.range (buffer.length / p.format.channels)) ∧
      ∀ k : Nat, (groups p.format.channels (run c host p buffer).buffer)[k]? =
        (groups p.format.channels buffer)[k]?.map fun pixel =>
          (p.runPixel samples pixel carry).1 := by
  have hpixels (c : Config) (host : Host) : pixelsAfter c host p buffer =
      (groups p.format.channels buffer).map fun pixel => (p.runPixel samples pixel carry).1 :=
    pixelsAfter_of_not_usesRandom c host hp samples carry
  have hrun (c : Config) (host : Host) : (run c host p buffer).buffer =
      ((groups p.format.channels buffer).map fun pixel =>
        (p.runPixel samples pixel carry).1).flatten := by
    rw [run_of_whole c host p hb, hpixels]
  refine ⟨?_, hrun c host, fun c' host' => ?_, perm_visits_plan c host p.format.channels_pos hb,
    fun k => ?_⟩
  · rw [run_of_whole c host p hb]
    exact ⟨_, rfl⟩
  · rw [hrun, hrun]
  · rw [groups_run c host p hb, hpixels, List.getElem?_map]

/-- Two workers that finish in reverse order leave the sum of red and green in the red of each of
three pixels. -/
theorem run_red_plus_green :
    (⟨.rgb, [⟨.channel 0, .add, .slot (.channel 1)⟩]⟩ : Program).usesRandom = false ∧
      [1, 2, 3, 4, 5, 6, 7, 8, (9 : Float)].length % PixelFormat.rgb.channels = 0 ∧
      (run { minPartitionPixels := 0 }
          { workers := 2
            schedule := fun n => (List.range n).reverse
            perm_schedule := fun n => (List.range n).reverse_perm }
          ⟨.rgb, [⟨.channel 0, .add, .slot (.channel 1)⟩]⟩
          [1, 2, 3, 4, 5, 6, 7, 8, 9]).buffer = [3, 2, 3, 9, 5, 6, 15, 8, 9] := by
  refine ⟨rfl, rfl, ?_⟩
  rw [(run_of_not_usesRandom _ _ rfl rfl (fun _ => 0) {}).2.1]
  decide +kernel

/-- **The samples of a seeded run.** Random operand `r` of pixel `k` receives sample
`k % size * randomCount + r` of the stream of partition `k / size`, and the run leaves what the
program makes of each pixel with these samples written into it. No sample is received twice or
skipped, and a pixel of the outcome depends on no other pixel. -/
theorem run_of_seed (hseed : c.seed? = some seed)
    (hb : buffer.length % p.format.channels = 0) :
    let pixels := buffer.length / p.format.channels
    let size := (plan c host pixels).pixelsPerPartition
    readings c host p p.format.channels (plan c host pixels) buffer =
        ((List.range pixels).map fun k => (List.range p.randomCount).map fun r =>
          seededSample seed size p.randomCount k r) ∧
      (∀ other, (run c host p buffer).buffer =
        ((groups p.format.channels buffer).mapIdx fun k pixel =>
          ((p.supply (seededSample seed size p.randomCount k)).runPixel other pixel
            {}).1).flatten) ∧
      (∀ k r k' r', r < p.randomCount → r' < p.randomCount →
        SampleAddress.ofPixel size p.randomCount k r =
          SampleAddress.ofPixel size p.randomCount k' r' → k = k' ∧ r = r') ∧
      (∀ a : SampleAddress,
        (∃ k r, k < pixels ∧ r < p.randomCount ∧
            SampleAddress.ofPixel size p.randomCount k r = a) ↔
          a.partition < ceilDiv pixels size ∧
            a.number < min size (pixels - a.partition * size) * p.randomCount) ∧
      ∀ buffer' : List Float, buffer'.length = buffer.length → ∀ k : Nat,
        (groups p.format.channels buffer')[k]? = (groups p.format.channels buffer)[k]? →
        (groups p.format.channels (run c host p buffer').buffer)[k]? =
          (groups p.format.channels (run c host p buffer).buffer)[k]? := by
  intro pixels size
  have hs := p.format.channels_pos
  refine ⟨?_, fun other => ?_, fun k r k' r' hr hr' => SampleAddress.ofPixel_inj hr hr',
    fun a => ?_, fun buffer' hlength k hk => ?_⟩
  · rw [readings_plan c host p hs hb]
    simp only [samples_of_seed host hseed]
    rfl
  · rw [run_of_whole c host p hb, pixelsAfter_of_seed host p hseed other]
  · rcases eq_nil_or_pixelsPerPartition_pos c host hs hb with rfl | hsize
    · simp [pixels, size, plan, Partitioning.plan, ceilDiv]
    · exact SampleAddress.exists_ofPixel_iff hsize a
  · have hb' : buffer'.length % p.format.channels = 0 := hlength ▸ hb
    rw [groups_run c host p hb, groups_run c host p hb',
      pixelsAfter_of_seed host p hseed fun _ => 0, pixelsAfter_of_seed host p hseed fun _ => 0,
      List.getElem?_mapIdx, List.getElem?_mapIdx, hk, hlength]

/-- With two workers, two of three pixels take their samples from the stream of the seed and the
last one from that of the next seed. -/
theorem readings_three_pixels :
    ({ threads := 2, minPartitionPixels := 0, seed? := some 7 } : Config).seed? = some 7 ∧
      [1, 2, 3, 4, 5, 6, 7, 8, (9 : Float)].length % PixelFormat.rgb.channels = 0 ∧
      readings { threads := 2, minPartitionPixels := 0, seed? := some 7 } {}
          ⟨.rgb, [⟨.channel 0, .set, .constant .rand⟩, ⟨.channel 1, .mul, .constant .rand⟩]⟩ 3
          (Partitioning.plan 3 2 0) [1, 2, 3, 4, 5, 6, 7, 8, 9] =
        [[Sample.stream (.ofSeed 7) 0, Sample.stream (.ofSeed 7) 1],
          [Sample.stream (.ofSeed 7) 2, Sample.stream (.ofSeed 7) 3],
          [Sample.stream (.ofSeed 8) 0, Sample.stream (.ofSeed 8) 1]] := by
  have hb : [1, 2, 3, 4, 5, 6, 7, 8, (9 : Float)].length % PixelFormat.rgb.channels = 0 := rfl
  refine ⟨rfl, hb, ?_⟩
  have hsize : (Partitioning.plan 3 2 0).pixelsPerPartition = 2 := by decide
  refine (run_of_seed {} ⟨.rgb, [⟨.channel 0, .set, .constant .rand⟩,
    ⟨.channel 1, .mul, .constant .rand⟩]⟩ rfl hb).1.trans ?_
  change (List.range 3).map (fun k => (List.range 2).map
    (seededSample 7 (Partitioning.plan 3 2 0).pixelsPerPartition 2 k)) = _
  rw [hsize]
  rfl

/-- **Under a seed the number of partitions fixes the outcome.** Two seeded runs of a program on a
buffer of whole pixels that report the same number of partitions leave the same buffer, since the
number of partitions in a plan determines their size. -/
theorem run_eq_of_partitions_eq (hseed : c.seed? = some seed) (hseed' : c'.seed? = some seed)
    (hb : buffer.length % p.format.channels = 0) :
    (∃ stats stats', (run c host p buffer).outcome = .ok stats ∧
        (run c' host' p buffer).outcome = .ok stats' ∧
        (stats.partitions = stats'.partitions →
          (run c host p buffer).buffer = (run c' host' p buffer).buffer)) ∧
      ∀ pixels workers workers' minPixels minPixels' : Nat, 0 < pixels →
        ((Partitioning.plan pixels workers minPixels).partitions =
            (Partitioning.plan pixels workers' minPixels').partitions →
          (Partitioning.plan pixels workers minPixels).pixelsPerPartition =
            (Partitioning.plan pixels workers' minPixels').pixelsPerPartition) ∧
        Partitioning.plan pixels (Partitioning.plan pixels workers minPixels).partitions 1 =
          Partitioning.plan pixels workers minPixels := by
  refine ⟨⟨_, _, congrArg _ (run_of_whole c host p hb), congrArg _ (run_of_whole c' host' p hb),
    fun hpartitions => ?_⟩, fun pixels workers workers' minPixels minPixels' hpos =>
      ⟨fun h => ?_, Partitioning.plan_partitions hpos workers minPixels⟩⟩
  · rw [run_of_whole c host p hb, run_of_whole c' host' p hb]
    refine congrArg List.flatten ?_
    rcases eq_or_ne p.isEmpty true with hempty | hempty
    · rw [pixelsAfter_of_isEmpty c host p hempty, pixelsAfter_of_isEmpty c' host' p hempty]
    · have hsize : (plan c host (buffer.length / p.format.channels)).pixelsPerPartition =
          (plan c' host' (buffer.length / p.format.channels)).pixelsPerPartition := by
        rcases Nat.eq_zero_or_pos (buffer.length / p.format.channels) with hzero | hpos
        · rw [hzero]
          rfl
        · simp only [hpos.ne', hempty] at hpartitions
          rw [plan, plan, Partitioning.pixelsPerPartition_plan hpos,
            Partitioning.pixelsPerPartition_plan hpos]
          exact congrArg _ hpartitions
      rw [pixelsAfter_of_seed host p hseed fun _ => 0,
        pixelsAfter_of_seed host' p hseed' fun _ => 0, hsize]
  · rw [Partitioning.pixelsPerPartition_plan hpos, h, ← Partitioning.pixelsPerPartition_plan hpos]

/-- Two and three workers both make two partitions of four pixels, and so the same samples. -/
theorem run_two_or_three_workers :
    ({ threads := 2, minPartitionPixels := 0, seed? := some 7 } : Config).seed? = some 7 ∧
      ({ threads := 3, minPartitionPixels := 1, seed? := some 7 } : Config).seed? = some 7 ∧
      (List.replicate 12 (0 : Float)).length % PixelFormat.rgb.channels = 0 ∧
      (run { threads := 2, minPartitionPixels := 0, seed? := some 7 } {}
          ⟨.rgb, [⟨.channel 1, .set, .constant .rand⟩]⟩ (List.replicate 12 0)).buffer =
        (run { threads := 3, minPartitionPixels := 1, seed? := some 7 } {}
          ⟨.rgb, [⟨.channel 1, .set, .constant .rand⟩]⟩ (List.replicate 12 0)).buffer := by
  have hb : (List.replicate 12 (0 : Float)).length % PixelFormat.rgb.channels = 0 := rfl
  have hseed : ({ threads := 2, minPartitionPixels := 0, seed? := some 7 } : Config).seed? =
    some 7 := rfl
  have hseed' : ({ threads := 3, minPartitionPixels := 1, seed? := some 7 } : Config).seed? =
    some 7 := rfl
  obtain ⟨⟨stats, stats', h, h', hbuffer⟩, -⟩ := run_eq_of_partitions_eq {} {}
    ⟨.rgb, [⟨.channel 1, .set, .constant .rand⟩]⟩ hseed hseed' hb
  refine ⟨hseed, hseed', hb, hbuffer ?_⟩
  rw [← Except.ok.inj h, ← Except.ok.inj h']
  decide +kernel

end Engine

end PixelMath
