import PixelMath.Proofs.Engine.Partition
import PixelMath.Proofs.Groups
import PixelMath.Proofs.Pixel

/-!
# Runs, pixel by pixel

A run cuts the buffer into partitions, works on these in some order, and puts the pieces together
again. Here this is shown to be a map over the pixels: pixel `k` is pixel `k % q` of partition
`k / q`, for partitions of `q` pixels, so all that its place decides is which samples it takes.

## Main definitions

* `Engine.visits` — the pixels in the order in which a run works on them.
* `Engine.readings` — the numbers that random operands receive in a run, pixel by pixel.

## Main results

* `Engine.process_eq` — the work on all partitions as a map over the pixels.
* `Engine.run_of_whole` — what a run reports and leaves of a buffer of whole pixels.
* `Engine.readings_eq` — the samples that are taken for each pixel.
* `Engine.perm_visits` — every pixel is worked on once.
-/

namespace PixelMath.Engine

/-- The numbers of the pixels of each partition. -/
def pixelNumbers (stride : Nat) (plan : Partitioning) (buffer : List Float) : List (List Nat) :=
  (groups (plan.chunkLength stride) buffer).mapIdx fun j chunk =>
    (wholeGroups stride chunk).mapIdx fun i _ => j * plan.pixelsPerPartition + i

/-- The numbers of the pixels in the order in which a run works on them: partition by partition in
the order of the machine, and in a partition from the front. -/
def visits (host : Host) (stride : Nat) (plan : Partitioning) (buffer : List Float) : List Nat :=
  let numbers := pixelNumbers stride plan buffer
  (host.schedule numbers.length).flatMap fun j => numbers.getD j []

/-- The numbers that the random operands of the program receive in a run, for each pixel. -/
def readings (c : Config) (host : Host) (p : Program) (stride : Nat) (plan : Partitioning)
    (buffer : List Float) : List (List Float) :=
  ((groups (plan.chunkLength stride) buffer).mapIdx fun j chunk =>
    ((p.readPixels (c.samples host j) stride chunk).run {}).1).flatten

variable {stride : Nat} {parts : Partitioning} {buffer : List Float}

/-! ### Work on a partition as work on its pixels -/

/-- Partitions of whole pixels hold whole pixels. -/
theorem length_mod_of_mem_groups {q n : Nat} (hqn : 0 < q * n) (hb : buffer.length % n = 0)
    {chunk : List Float} (hc : chunk ∈ groups (q * n) buffer) : chunk.length % n = 0 := by
  obtain ⟨j, hj⟩ := List.mem_iff_getElem?.mp hc
  rw [getElem?_groups hqn] at hj
  split at hj
  · rw [← Option.some.inj hj, List.length_take, List.length_drop]
    have hdvd : n ∣ buffer.length - j * (q * n) :=
      Nat.dvd_sub (Nat.dvd_of_mod_eq_zero hb) ⟨j * q, by rw [Nat.mul_comm n, Nat.mul_assoc]⟩
    rcases le_total (q * n) (buffer.length - j * (q * n)) with hle | hle
    · rw [min_eq_left hle, Nat.mul_mod_left]
    · rw [min_eq_right hle, Nat.mod_eq_zero_of_dvd hdvd]
  · cases hj

/-- What is done to every partition pixel by pixel is done to the buffer pixel by pixel. -/
theorem flatten_mapIdx_chunks {β : Type} (hs : 0 < stride) (hq : 0 < parts.pixelsPerPartition)
    (hb : buffer.length % stride = 0) {work : Nat → List Float → List β}
    {f : Nat → Nat → List Float → β}
    (hwork : ∀ j chunk, chunk.length % stride = 0 →
      work j chunk = (groups stride chunk).mapIdx (f j)) :
    ((groups (parts.chunkLength stride) buffer).mapIdx work).flatten =
      (groups stride buffer).mapIdx fun k =>
        f (k / parts.pixelsPerPartition) (k % parts.pixelsPerPartition) := by
  rw [← flatten_mapIdx_groups_mul hq hs]
  refine congrArg List.flatten (List.ext_getElem? fun j => ?_)
  rw [List.getElem?_mapIdx, List.getElem?_mapIdx]
  cases hj : (groups (parts.chunkLength stride) buffer)[j]? with
  | none => rw [← Partitioning.chunkLength, hj, Option.map_none, Option.map_none]
  | some chunk =>
    have hmem := List.mem_of_getElem? hj
    rw [← Partitioning.chunkLength, hj, Option.map_some, Option.map_some,
      hwork j chunk (length_mod_of_mem_groups (Nat.mul_pos hq hs) hb hmem)]

section Runs

variable (c : Config) (host : Host) (p : Program)

theorem runPartition_eq (j : Nat) {chunk : List Float} (hc : chunk.length % stride = 0) :
    runPartition c host p stride j chunk =
      ((groups stride chunk).mapIdx fun i pixel =>
        (p.runPixel (c.samples host j) pixel { drawn := i * p.randomCount }).1).flatten := by
  have hrun := p.runPixels_eq (c.samples host j) stride chunk {}
  simp only [Nat.zero_add] at hrun
  rw [runPartition, hrun, wholeGroups_of_whole hc, leftover_of_whole hc, List.append_nil]

/-- **The work on all partitions is a map over the pixels.** Pixel `k` takes its samples from the
stream of partition `k / q`, after those of the `k % q` pixels before it in the partition. -/
theorem process_eq (hs : 0 < stride) (hq : 0 < parts.pixelsPerPartition)
    (hb : buffer.length % stride = 0) :
    process c host p stride parts buffer =
      ((groups stride buffer).mapIdx fun k pixel =>
        (p.runPixel (c.samples host (k / parts.pixelsPerPartition)) pixel
          { drawn := k % parts.pixelsPerPartition * p.randomCount }).1).flatten := by
  have hchunks := flatten_mapIdx_chunks hs hq hb fun j chunk _ =>
    (rfl : (groups stride chunk).mapIdx (fun i pixel =>
      (p.runPixel (c.samples host j) pixel { drawn := i * p.randomCount }).1) = _)
  have hwork : (groups (parts.chunkLength stride) buffer).mapIdx (runPartition c host p stride) =
      ((groups (parts.chunkLength stride) buffer).mapIdx fun j chunk =>
        (groups stride chunk).mapIdx fun i pixel => (p.runPixel (c.samples host j) pixel
          { drawn := i * p.randomCount }).1).map List.flatten := by
    refine List.ext_getElem? fun j => ?_
    rw [List.getElem?_mapIdx, List.getElem?_map, List.getElem?_mapIdx]
    cases hj : (groups (parts.chunkLength stride) buffer)[j]? with
    | none => rfl
    | some chunk =>
      have hmem := List.mem_of_getElem? hj
      rw [Option.map_some, Option.map_some, Option.map_some, runPartition_eq c host p j
        (length_mod_of_mem_groups (Nat.mul_pos hq hs) hb hmem)]
  rw [process, toList_execute _ (host.perm_schedule _), List.toList_toArray, hwork,
    ← List.flatten_flatten, hchunks]

/-- Random operand `r` of pixel `k` receives sample `k % q * randomCount + r` of the stream of
partition `k / q`. -/
theorem readings_eq (hs : 0 < stride) (hq : 0 < parts.pixelsPerPartition)
    (hb : buffer.length % stride = 0) :
    readings c host p stride parts buffer =
      (List.range (buffer.length / stride)).map fun k => (List.range p.randomCount).map fun r =>
        c.samples host (k / parts.pixelsPerPartition)
          (k % parts.pixelsPerPartition * p.randomCount + r) := by
  have hread (j : Nat) (chunk : List Float) (hc : chunk.length % stride = 0) :
      ((p.readPixels (c.samples host j) stride chunk).run {}).1 =
        (groups stride chunk).mapIdx fun i _ => (List.range p.randomCount).map fun r =>
          c.samples host j (i * p.randomCount + r) := by
    have hrun := run_mapM_mapIdx (p.readPixel_carry (c.samples host j))
      (p.drawn_runPixel (c.samples host j)) (groups stride chunk) {}
    simp only [Nat.zero_add, p.readPixel_eq] at hrun
    rw [← hrun, ← wholeGroups_of_whole hc]
    rfl
  rw [readings, flatten_mapIdx_chunks hs hq hb hread]
  refine List.ext_getElem (by rw [List.length_mapIdx, List.length_map, List.length_range,
    length_groups_of_whole hs hb]) fun k hk hk' => ?_
  rw [List.getElem_mapIdx, List.getElem_map, List.getElem_range]

/-! ### A run on whole pixels -/

/-- The pixels of a buffer after a run, one by one. -/
def pixelsAfter (c : Config) (host : Host) (p : Program) (buffer : List Float) :
    List (List Float) :=
  let stride := p.format.channels
  let size := (plan c host (buffer.length / stride)).pixelsPerPartition
  (groups stride buffer).mapIdx fun k pixel =>
    (p.runPixel (c.samples host (k / size)) pixel { drawn := k % size * p.randomCount }).1

theorem runPixel_of_isEmpty {p : Program} (hp : p.isEmpty) (samples : Sample.Stream)
    (pixel : List Float) (carry : Carry) : (p.runPixel samples pixel carry).1 = pixel := by
  have hnil : p.instructions = [] := List.isEmpty_iff.mp hp
  rw [Program.runPixel, hnil]
  rfl

theorem pixelsAfter_of_isEmpty (hp : p.isEmpty) :
    pixelsAfter c host p buffer = groups p.format.channels buffer := by
  refine List.ext_getElem? fun k => ?_
  simp only [pixelsAfter, List.getElem?_mapIdx, runPixel_of_isEmpty hp, Option.map_id']

/-- Without random operands, the pixels after a run are those that the program makes of each pixel
alone, with whatever samples. -/
theorem pixelsAfter_of_not_usesRandom {p : Program} (hp : p.usesRandom = false)
    (samples : Sample.Stream) (carry : Carry) :
    pixelsAfter c host p buffer =
      (groups p.format.channels buffer).map fun pixel => (p.runPixel samples pixel carry).1 := by
  refine List.ext_getElem? fun k => ?_
  rw [pixelsAfter, List.getElem?_mapIdx, List.getElem?_map]
  refine congrArg (Option.map · _) (funext fun pixel => ?_)
  exact p.runPixel_of_not_usesRandom _ pixel _ hp samples carry

/-- **A run on whole pixels succeeds.** It reports the partitions that were planned, or none where
there is nothing to do, and leaves what the program makes of each pixel. -/
theorem run_of_whole (hb : buffer.length % p.format.channels = 0) :
    run c host p buffer =
      { outcome := .ok
          { pixels := buffer.length / p.format.channels
            partitions :=
              if buffer.length / p.format.channels = 0 ∨ p.isEmpty then 0
              else (plan c host (buffer.length / p.format.channels)).partitions }
        buffer := (pixelsAfter c host p buffer).flatten } := by
  have hs := p.format.channels_pos
  have hstride : requireStride p.format p.format.channels = .ok () := if_pos rfl
  simp only [run, runStrided, hstride, ne_eq, hb, not_true_eq_false, if_false]
  split
  · next hnone =>
    rw [RunResult.mk.injEq]
    refine ⟨rfl, ?_⟩
    rcases hnone with hzero | hempty
    · have hnil : buffer = [] := List.eq_nil_of_length_eq_zero <| by
        rw [← Nat.div_mul_cancel (Nat.dvd_of_mod_eq_zero hb), hzero, Nat.zero_mul]
      subst hnil
      rw [pixelsAfter, groups_nil, List.mapIdx_nil, List.flatten_nil]
    · rw [pixelsAfter_of_isEmpty c host p hempty, flatten_groups hs.ne']
  · next hsome =>
    have hpos : 0 < buffer.length / p.format.channels :=
      Nat.pos_of_ne_zero fun h => hsome (.inl h)
    have hq : 0 < (plan c host (buffer.length / p.format.channels)).pixelsPerPartition :=
      Partitioning.pixelsPerPartition_pos hpos _ _
    rw [process_eq c host p hs hq hb]
    rfl

theorem length_of_mem_pixelsAfter (hb : buffer.length % p.format.channels = 0)
    {pixel : List Float} (hp : pixel ∈ pixelsAfter c host p buffer) :
    pixel.length = p.format.channels := by
  obtain ⟨k, hk, rfl⟩ := List.mem_mapIdx.mp hp
  rw [Program.length_runPixel]
  exact length_of_mem_groups p.format.channels_pos hb (List.getElem_mem _)

/-- The pixels that a run leaves are what the program makes of the pixels it finds. -/
theorem groups_run (hb : buffer.length % p.format.channels = 0) :
    groups p.format.channels (run c host p buffer).buffer = pixelsAfter c host p buffer := by
  rw [run_of_whole c host p hb]
  exact groups_flatten p.format.channels_pos _ fun _ => length_of_mem_pixelsAfter c host p hb

end Runs

/-! ### The pixels in the order of work -/

theorem flatten_pixelNumbers (hs : 0 < stride) (hq : 0 < parts.pixelsPerPartition)
    (hb : buffer.length % stride = 0) :
    (pixelNumbers stride parts buffer).flatten = List.range (buffer.length / stride) := by
  have hnumbers (j : Nat) (chunk : List Float) (hc : chunk.length % stride = 0) :
      ((wholeGroups stride chunk).mapIdx fun i _ => j * parts.pixelsPerPartition + i) =
        (groups stride chunk).mapIdx fun i _ => j * parts.pixelsPerPartition + i := by
    rw [wholeGroups_of_whole hc]
  rw [pixelNumbers, flatten_mapIdx_chunks hs hq hb hnumbers, ← length_groups_of_whole hs hb]
  refine List.ext_getElem (by rw [List.length_mapIdx, List.length_range]) fun k _ _ => ?_
  rw [List.getElem_mapIdx, List.getElem_range, Nat.mul_comm, Nat.div_add_mod]

/-- **Every pixel is worked on once**, in whatever order the partitions are. -/
theorem perm_visits (host : Host) (hs : 0 < stride) (hq : 0 < parts.pixelsPerPartition)
    (hb : buffer.length % stride = 0) :
    (visits host stride parts buffer).Perm (List.range (buffer.length / stride)) := by
  have hmap (numbers : List (List Nat)) :
      (List.range numbers.length).map (numbers.getD · []) = numbers := by
    refine List.ext_getElem (by rw [List.length_map, List.length_range]) fun j _ hj => ?_
    rw [List.getElem_map, List.getElem_range, List.getD_eq_getElem?_getD,
      List.getElem?_eq_getElem hj, Option.getD_some]
  rw [← flatten_pixelNumbers hs hq hb]
  conv_rhs => rw [← hmap (pixelNumbers stride parts buffer), ← List.flatMap_def]
  exact (host.perm_schedule _).flatMap_right _

/-! ### The plan of a run -/

section Planned

variable (c : Config) (host : Host)

/-- Only for an empty buffer is the planned size zero. -/
theorem eq_nil_or_pixelsPerPartition_pos (hs : 0 < stride) (hb : buffer.length % stride = 0) :
    buffer = [] ∨ 0 < (plan c host (buffer.length / stride)).pixelsPerPartition := by
  rcases eq_or_ne buffer [] with rfl | hne
  · exact .inl rfl
  · have hpos : 0 < buffer.length / stride := Nat.div_pos (le_length_of_whole hne hb) hs
    exact .inr (Partitioning.pixelsPerPartition_pos hpos _ _)

theorem perm_visits_plan (hs : 0 < stride) (hb : buffer.length % stride = 0) :
    (visits host stride (plan c host (buffer.length / stride)) buffer).Perm
      (List.range (buffer.length / stride)) := by
  rcases eq_nil_or_pixelsPerPartition_pos c host hs hb with rfl | hq
  · have hnil : host.schedule 0 = [] := List.perm_nil.mp (host.perm_schedule 0)
    simp [visits, pixelNumbers, hnil]
  · exact perm_visits host hs hq hb

theorem readings_plan (p : Program) (hs : 0 < stride) (hb : buffer.length % stride = 0) :
    readings c host p stride (plan c host (buffer.length / stride)) buffer =
      (List.range (buffer.length / stride)).map fun k => (List.range p.randomCount).map fun r =>
        c.samples host (k / (plan c host (buffer.length / stride)).pixelsPerPartition)
          (k % (plan c host (buffer.length / stride)).pixelsPerPartition * p.randomCount + r) := by
  rcases eq_nil_or_pixelsPerPartition_pos c host hs hb with rfl | hq
  · simp [readings]
  · exact readings_eq c host p hs hq hb

end Planned

end PixelMath.Engine
