import PixelMath.Proofs.Engine.Apply
import PixelMath.Proofs.Pixel.Checked

/-!
# Runs with a declared stride

A run divides by the stride, rounds up twice, multiplies, cuts the buffer into pieces, and reads and
writes by number. Each of these is sound because of some check that comes earlier: that the stride
is that of the format, that there is work to do, and that the program names no channel beyond its
format. Here the run is carried out once more in operations that report their faults; for a compiled
program none is met, whatever the stride, the buffer and the settings are.

## Main definitions

* `Engine.checkedRunStrided` — a run in operations that report their faults.

## Main results

* `Engine.checkedRunStrided_eq` — a run of a compiled program meets no fault.
* `Engine.runStrided_outcome` — every outcome of a run, and when it arises.
-/

namespace PixelMath.Engine

/-! ### Runs that report their faults -/

/-- Carries out `work i` on chunk `i`, in the given order. -/
def checkedExecute (order : List Nat) (work : Nat → List Float → Except Fault (List Float))
    (chunks : Array (List Float)) : Except Fault (Array (List Float)) :=
  order.foldlM (fun cs i => do
    let chunk ← checkedGet cs.toList i
    let done ← work i chunk
    return cs.modify i fun _ => done) chunks

/-- The values that a program makes of the values of a partition. -/
def checkedRunPartition (c : Config) (host : Host) (p : Program) (stride partition : Nat)
    (values : List Float) : Except Fault (List Float) := do
  let r ← (p.checkedRunPixels (c.samples host partition) stride values).run {}
  return r.1

/-- The buffer after all partitions have been worked on. -/
def checkedProcess (c : Config) (host : Host) (p : Program) (stride : Nat) (plan : Partitioning)
    (buffer : List Float) : Except Fault (List Float) := do
  let length ← checkedMul plan.pixelsPerPartition stride
  let size ← groupSize length
  let chunks := (groups size buffer).toArray
  let done ← checkedExecute (host.schedule chunks.size) (checkedRunPartition c host p stride) chunks
  return done.toList.flatten

/-- Runs a program on every pixel of a buffer whose pixels are declared to have `stride`
channels. -/
def checkedRunStrided (c : Config) (host : Host) (p : Program) (stride : Nat)
    (buffer : List Float) : Except Fault RunResult :=
  match requireStride p.format stride with
  | .error e => return { outcome := .error (.compile e), buffer }
  | .ok () => do
    let pixels ← checkedDiv buffer.length stride
    let rest ← checkedMod buffer.length stride
    if rest ≠ 0 then
      let expected ← checkedMul pixels stride
      return { outcome := .error (.precondition expected buffer.length), buffer }
    else if pixels = 0 ∨ p.isEmpty then
      return { outcome := .ok { pixels, partitions := 0 }, buffer }
    else
      let plan ← Partitioning.checkedPlan pixels (c.workers host) c.minPartitionPixels
      let buffer ← checkedProcess c host p stride plan buffer
      return { outcome := .ok { pixels, partitions := plan.partitions }, buffer }

variable {c : Config} {host : Host} {p : Program} {stride : Nat} {buffer : List Float}

/-- No partition has more pixels than the buffer. -/
theorem pixelsPerPartition_plan_le (c : Config) (host : Host) (pixels : Nat) :
    (plan c host pixels).pixelsPerPartition ≤ pixels := by
  rcases Nat.eq_zero_or_pos pixels with rfl | hpos
  · exact le_rfl
  · rw [plan, Partitioning.plan_of_pos hpos]
    exact ceilDiv_le_self _ (Partitioning.wanted_pos hpos _ _)

theorem checkedExecute_eq {order : List Nat} {work : Nat → List Float → List Float}
    {work' : Nat → List Float → Except Fault (List Float)} {chunks : Array (List Float)}
    (horder : ∀ i ∈ order, i < chunks.size)
    (hwork : ∀ i chunk, work' i chunk = .ok (work i chunk)) :
    checkedExecute order work' chunks = .ok (execute order work chunks) := by
  induction order generalizing chunks with
  | nil => rfl
  | cons i order ih =>
    have hi : i < chunks.toList.length := horder i List.mem_cons_self
    have hmodify : (chunks.modify i fun _ => work i chunks.toList[i]) =
        chunks.modify i (work i) := by
      refine Array.ext_getElem? fun j => ?_
      rw [Array.getElem?_modify, Array.getElem?_modify]
      split
      · next hij =>
        subst hij
        rw [Array.getElem?_eq_getElem hi]
        rfl
      · rfl
    have horder' : ∀ j ∈ order, j < (chunks.modify i (work i)).size := fun j hj => by
      rw [Array.size_modify]
      exact horder j (List.mem_cons_of_mem i hj)
    have hrest := ih horder'
    rw [checkedExecute] at hrest ⊢
    rw [List.foldlM_cons, checkedGet_eq hi, ok_bind, hwork, ok_bind, hmodify]
    exact hrest

theorem checkedRunPartition_eq (hs : 0 < stride) (hp : ∀ i ∈ p.instructions, i.Fits stride)
    (j : Nat) (values : List Float) :
    checkedRunPartition c host p stride j values = .ok (runPartition c host p stride j values) := by
  rw [checkedRunPartition, p.checkedRunPixels_eq _ _ hs hp]
  rfl

theorem checkedProcess_eq {parts : Partitioning} (hs : 0 < stride)
    (hq : 0 < parts.pixelsPerPartition) (hlength : parts.pixelsPerPartition * stride < sizeLimit)
    (hp : ∀ i ∈ p.instructions, i.Fits stride) :
    checkedProcess c host p stride parts buffer = .ok (process c host p stride parts buffer) := by
  have horder (chunks : Array (List Float)) (i : Nat) (hi : i ∈ host.schedule chunks.size) :
      i < chunks.size :=
    List.mem_range.mp ((host.perm_schedule chunks.size).mem_iff.mp hi)
  simp only [checkedProcess, checkedMul_eq hlength, groupSize_eq (Nat.mul_pos hq hs), ok_bind,
    checkedExecute_eq (horder _) (checkedRunPartition_eq hs hp)]
  rfl

/-- **A run meets no fault** where the format has every channel that the program names. -/
theorem checkedRunStrided_eq (hp : ∀ i ∈ p.instructions, i.Fits p.format.channels)
    (hbuffer : buffer.length < sizeLimit) :
    checkedRunStrided c host p stride buffer = .ok (runStrided c host p stride buffer) := by
  by_cases hstride : stride = p.format.channels
  · subst hstride
    have hs := p.format.channels_pos
    have hok : requireStride p.format p.format.channels = .ok () :=
      requireStride_eq_ok_iff.mpr rfl
    have hle := Nat.div_mul_le_self buffer.length p.format.channels
    simp only [checkedRunStrided, runStrided, hok, checkedDiv_eq hs, checkedMod_eq hs, ok_bind,
      checkedMul_eq (hle.trans_lt hbuffer)]
    split
    · rfl
    split
    · rfl
    · next hsome =>
      have hpos : 0 < buffer.length / p.format.channels :=
        Nat.pos_of_ne_zero fun h => hsome (.inl h)
      have hlt : buffer.length / p.format.channels < sizeLimit :=
        (Nat.div_le_self _ _).trans_lt hbuffer
      have hq : 0 < (plan c host (buffer.length / p.format.channels)).pixelsPerPartition :=
        Partitioning.pixelsPerPartition_pos hpos _ _
      have hsize : (plan c host (buffer.length / p.format.channels)).pixelsPerPartition *
          p.format.channels < sizeLimit :=
        (Nat.mul_le_mul_right _ (pixelsPerPartition_plan_le c host _)).trans_lt
          (hle.trans_lt hbuffer)
      have hplan : Partitioning.checkedPlan (buffer.length / p.format.channels) (c.workers host)
          c.minPartitionPixels = .ok (plan c host (buffer.length / p.format.channels)) :=
        Partitioning.checkedPlan_eq hlt _ _
      rw [hplan, ok_bind, checkedProcess_eq hs hq hsize hp]
      rfl
  · rw [checkedRunStrided, runStrided, requireStride_eq_error_iff.mpr ⟨hstride, rfl⟩]
    rfl

/-! ### The outcome of a run -/

theorem runStrided_of_ne (h : stride ≠ p.format.channels) :
    runStrided c host p stride buffer =
      { outcome := .error (.compile (.strideMismatch (some p.format) p.format.channels stride))
        buffer } := by
  rw [runStrided, requireStride_eq_error_iff.mpr ⟨h, rfl⟩]

theorem run_of_not_whole (hb : buffer.length % p.format.channels ≠ 0) :
    run c host p buffer =
      { outcome := .error
          (.precondition (buffer.length / p.format.channels * p.format.channels) buffer.length)
        buffer } := by
  have hok : requireStride p.format p.format.channels = .ok () := requireStride_eq_ok_iff.mpr rfl
  simp only [run, runStrided, hok]
  exact if_pos hb

/-- The first check that fails decides a run. -/
theorem runStrided_cases (c : Config) (host : Host) (p : Program) (stride : Nat)
    (buffer : List Float) :
    (stride ≠ p.format.channels ∧ runStrided c host p stride buffer =
        { outcome := .error (.compile (.strideMismatch (some p.format) p.format.channels stride))
          buffer }) ∨
      stride = p.format.channels ∧
        ((buffer.length % stride ≠ 0 ∧ runStrided c host p stride buffer =
            { outcome := .error
                (.precondition (buffer.length / stride * stride) buffer.length)
              buffer }) ∨
          buffer.length % stride = 0 ∧ runStrided c host p stride buffer =
            { outcome := .ok (report c host p (buffer.length / stride))
              buffer := (pixelsAfter c host p buffer).flatten }) := by
  by_cases hstride : stride = p.format.channels
  · refine .inr ⟨hstride, ?_⟩
    subst hstride
    by_cases hb : buffer.length % p.format.channels = 0
    · exact .inr ⟨hb, run_of_whole c host p hb⟩
    · exact .inl ⟨hb, run_of_not_whole hb⟩
  · exact .inl ⟨hstride, runStrided_of_ne hstride⟩

theorem runStrided_eq_compile_iff {e : CompileError} :
    (runStrided c host p stride buffer).outcome = .error (.compile e) ↔
      requireStride p.format stride = .error e := by
  constructor
  · intro h
    rcases runStrided_cases c host p stride buffer with
      ⟨hstride, hr⟩ | ⟨-, ⟨-, hr⟩ | ⟨-, hr⟩⟩ <;> rw [hr] at h <;> cases h
    exact requireStride_eq_error_iff.mpr ⟨hstride, rfl⟩
  · intro h
    rw [runStrided, h]

theorem runStrided_eq_precondition_iff {expected actual : Nat} :
    (runStrided c host p stride buffer).outcome = .error (.precondition expected actual) ↔
      stride = p.format.channels ∧ buffer.length % stride ≠ 0 ∧
        expected = buffer.length / stride * stride ∧ actual = buffer.length := by
  constructor
  · intro h
    rcases runStrided_cases c host p stride buffer with
      ⟨-, hr⟩ | ⟨hstride, ⟨hb, hr⟩ | ⟨-, hr⟩⟩ <;> rw [hr] at h <;> cases h
    exact ⟨hstride, hb, rfl, rfl⟩
  · rintro ⟨rfl, hb, rfl, rfl⟩
    exact congrArg _ (run_of_not_whole hb)

theorem runStrided_eq_ok_iff {stats : RunStats} :
    (runStrided c host p stride buffer).outcome = .ok stats ↔
      stride = p.format.channels ∧ buffer.length % stride = 0 ∧
        stats = report c host p (buffer.length / stride) := by
  constructor
  · intro h
    rcases runStrided_cases c host p stride buffer with
      ⟨-, hr⟩ | ⟨hstride, ⟨-, hr⟩ | ⟨hb, hr⟩⟩ <;> rw [hr] at h <;> cases h
    exact ⟨hstride, hb, rfl⟩
  · rintro ⟨rfl, hb, rfl⟩
    exact congrArg _ (run_of_whole c host p hb)

theorem buffer_of_runStrided_eq_error {e : EngineError}
    (h : (runStrided c host p stride buffer).outcome = .error e) :
    (runStrided c host p stride buffer).buffer = buffer := by
  rcases runStrided_cases c host p stride buffer with
    ⟨-, hr⟩ | ⟨-, ⟨-, hr⟩ | ⟨-, hr⟩⟩ <;> rw [hr] at h ⊢
  cases h

theorem length_runStrided : (runStrided c host p stride buffer).buffer.length = buffer.length := by
  rcases runStrided_cases c host p stride buffer with
    ⟨-, hr⟩ | ⟨rfl, ⟨-, hr⟩ | ⟨hb, -⟩⟩
  · rw [hr]
  · rw [hr]
  · exact length_run hb

/-- **Every outcome of a run with a declared stride.** A run of a compiled program is refused for
its stride exactly if this is not the number of channels of the format, with the error that
compiling for the stride gives, whatever the buffer holds; then it is refused exactly if the buffer
does not hold whole pixels; all else succeeds and reports the pixels of the buffer. A run that is
refused leaves the buffer as it is, and no run meets a fault, whatever the settings are. -/
theorem runStrided_outcome {f : PixelFormat} {source : String} (hp : compile f source = .ok p)
    (c : Config) (host : Host) (stride : Nat) (buffer : List Float) :
    let r := runStrided c host p stride buffer
    (∀ e, r.outcome = .error (.compile e) ↔ requireStride f stride = .error e) ∧
      (∀ e, requireStride f stride = .error e ↔
        stride ≠ f.channels ∧ e = .strideMismatch (some f) f.channels stride) ∧
      (∀ expected actual, r.outcome = .error (.precondition expected actual) ↔
        stride = f.channels ∧ buffer.length % stride ≠ 0 ∧
          expected = buffer.length / stride * stride ∧ actual = buffer.length) ∧
      (∀ pixels channels, r.outcome ≠ .error (.sizeOverflow pixels channels)) ∧
      (∀ stats, r.outcome = .ok stats ↔
        stride = f.channels ∧ buffer.length % stride = 0 ∧ stats.pixels = buffer.length / stride ∧
          stats.partitions =
            if stats.pixels = 0 ∨ p.isEmpty then 0 else (plan c host stats.pixels).partitions) ∧
      (∀ e, r.outcome = .error e → r.buffer = buffer) ∧
      r.buffer.length = buffer.length ∧
      (buffer.length < sizeLimit → checkedRunStrided c host p stride buffer = .ok r) := by
  obtain ⟨-, rfl, -⟩ := compile_eq_ok_iff.mp hp
  refine ⟨fun e => runStrided_eq_compile_iff, fun e => requireStride_eq_error_iff,
    fun expected actual => runStrided_eq_precondition_iff, fun pixels channels h => ?_,
    fun stats => ?_, fun e => buffer_of_runStrided_eq_error, length_runStrided,
    checkedRunStrided_eq fun i hi => fits_of_compile hp hi⟩
  · rcases runStrided_cases c host p stride buffer with
      ⟨-, hr⟩ | ⟨-, ⟨-, hr⟩ | ⟨-, hr⟩⟩ <;> rw [hr] at h <;> cases h
  · obtain ⟨n, k⟩ := stats
    rw [runStrided_eq_ok_iff]
    simp only [report, RunStats.mk.injEq]
    refine and_congr_right fun _ => and_congr_right fun _ => and_congr_right fun hn => ?_
    rw [hn]

/-- A stride of zero is refused on a buffer of four values, which is no whole pixel either. With the
right stride the same program runs on two pixels, for the largest settings and for the smallest. -/
theorem runStrided_outcome_rgb :
    compile .rgb "v = b\ng + v" =
        .ok ⟨.rgb, [⟨.scratch 0, .set, .slot (.channel 2)⟩,
          ⟨.channel 1, .add, .slot (.scratch 0)⟩]⟩ ∧
      (runStrided {} {} ⟨.rgb, [⟨.scratch 0, .set, .slot (.channel 2)⟩,
          ⟨.channel 1, .add, .slot (.scratch 0)⟩]⟩ 0 [1, 2, 3, 4]).outcome =
        .error (.compile (.strideMismatch (some .rgb) 3 0)) ∧
      ∀ c ∈ [{ minPartitionPixels := 0 },
          { threads := sizeLimit - 1, minPartitionPixels := sizeLimit - 1 }],
        ∃ r, checkedRunStrided c {} ⟨.rgb, [⟨.scratch 0, .set, .slot (.channel 2)⟩,
            ⟨.channel 1, .add, .slot (.scratch 0)⟩]⟩ 3 [1, 2, 3, 4, 5, 6] = .ok r ∧
          r.outcome = .ok { pixels := 2, partitions := 1 } ∧ r.buffer = [1, 5, 3, 4, 11, 6] := by
  have hp : compile .rgb "v = b\ng + v" =
      .ok ⟨.rgb, [⟨.scratch 0, .set, .slot (.channel 2)⟩,
        ⟨.channel 1, .add, .slot (.scratch 0)⟩]⟩ := by
    decide +kernel
  refine ⟨hp, ?_, fun c hc => ⟨_, (runStrided_outcome hp c {} 3 [1, 2, 3, 4, 5, 6]).2.2.2.2.2.2.2
    (by decide), ?_⟩⟩
  · exact ((runStrided_outcome hp {} {} 0 [1, 2, 3, 4]).1 _).mpr rfl
  · simp only [List.mem_cons, List.not_mem_nil, or_false] at hc
    rcases hc with rfl | rfl <;> decide +kernel

end PixelMath.Engine
