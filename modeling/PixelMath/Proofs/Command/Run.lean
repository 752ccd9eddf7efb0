import PixelMath.Command.Directory
import PixelMath.Proofs.Command.Job
import PixelMath.Proofs.Engine.Apply
import PixelMath.Proofs.Engine.Reproducible

/-!
# The outcome of a run

Until it opens its output, a run is all or nothing. Its checks are made in a fixed order, the first
one that fails decides what is said, and then no file is touched. When all of them hold, the engine
has nothing left to refuse, and the one file that is opened takes what the program makes of the
doubles of the input. A double is written as its bits, lowest byte first; all NaNs are written
alike. A file that runs out of room on the way makes the run fail, but what it has taken stays
there, and what it held before is lost.

The number of workers reaches the engine on another way than in a program that sets it in the
settings of the engine, but under a seed both make the same samples.

## Main definitions

* `RunArguments.Opens` — what it takes for a run to open its output.
* `RunArguments.Accepts` — what it takes for a run to succeed.
* `RunArguments.Fails` — the first check of a run that fails.

## Main results

* `RunArguments.fails_iff` — the failures of a run as its checks report them.
* `execute_run` — every outcome of a run, and when it arises.
* `execute_run_short_of_room` — a run that fails and has changed a file.
-/

namespace PixelMath.Command

namespace RunArguments

/-- The run comes to its output: its program is settled and the bytes of its input form whole pixels
of doubles. -/
structure Loads (a : RunArguments) (files : Files) (p : Program) (bytes : ByteArray) : Prop
    extends a.Settles files p where
  read : files.read a.input = .ok bytes
  whole : bytes.size % (8 * p.format.channels) = 0

/-- The run opens its output, which takes what `sink` takes. -/
structure Opens (a : RunArguments) (files : Files) (p : Program) (bytes : ByteArray)
    (sink : Sink) : Prop extends a.Loads files p bytes where
  create : files.create a.output = .ok sink

/-- The run can be carried out: it comes to its output, and there as many bytes can be written as
its input has. -/
structure Accepts (a : RunArguments) (files : Files) (p : Program) (bytes : ByteArray) : Prop
    extends a.Loads files p bytes where
  writable : files.refusal? a.output bytes.size = none

/-- The first check of the run that fails, by what is said about it. Each check stands with those
that come before it and hold. -/
inductive Fails (a : RunArguments) (files : Files) : Failure → Prop
  | format {e : FormatError} (h : PixelFormat.parse a.format = .error e) :
    Fails a files (.invalidFormat a.format e)
  | unreadable {f : PixelFormat} {path : String} {e : FileError}
    (hf : PixelFormat.parse a.format = .ok f) (hs : a.source = .file path)
    (h : files.read path = .error e) : Fails a files (.unreadableProgram path (.file e))
  | notText {f : PixelFormat} {path : String} {bytes : ByteArray}
    (hf : PixelFormat.parse a.format = .ok f) (hs : a.source = .file path)
    (hr : files.read path = .ok bytes) (h : ∀ text : String, bytes ≠ text.toUTF8) :
    Fails a files (.unreadableProgram path .notText)
  | channels {f : PixelFormat} {text : String} {n : Nat}
    (hf : PixelFormat.parse a.format = .ok f) (ht : a.source.Holds files text)
    (hn : a.channels? = some n) (h : n ≠ f.channels) :
    Fails a files (.notCompiled (.strideMismatch (some f) f.channels n))
  | compile {f : PixelFormat} {text : String} {e : CompileError}
    (hf : PixelFormat.parse a.format = .ok f) (ht : a.source.Holds files text)
    (hn : ∀ n ∈ a.channels?, n = f.channels) (h : PixelMath.compile f text = .error e) :
    Fails a files (.notCompiled e)
  | input {p : Program} {e : FileError} (hp : a.Settles files p)
    (h : files.read a.input = .error e) : Fails a files (.notLoaded a.input e)
  | bytes {p : Program} {bytes : ByteArray} (hp : a.Settles files p)
    (hr : files.read a.input = .ok bytes) (h : bytes.size % 8 ≠ 0) :
    Fails a files (.invalidBuffer a.input ⟨bytes.size⟩)
  | pixels {p : Program} {bytes : ByteArray} (hp : a.Settles files p)
    (hr : files.read a.input = .ok bytes) (hb : bytes.size % 8 = 0)
    (h : bytes.size / 8 % p.format.channels ≠ 0) :
    Fails a files (.raggedPixels a.input (bytes.size / 8) p.format.channels)
  | output {p : Program} {bytes : ByteArray} {e : FileError} (hl : a.Loads files p bytes)
    (h : files.refusal? a.output bytes.size = some e) : Fails a files (.notSaved a.output e)

variable {a : RunArguments} {files : Files} {failure : Failure}

theorem fails_of_prepare_eq_error
    (h : Job.prepare files a.input a.format a.channels? a.source = .error failure) :
    a.Fails files failure := by
  simp only [Job.prepare, bind_eq_error_iff, readFormat_eq_ok_iff, readFormat_eq_error_iff,
    readSource_eq_ok_iff, readSource_eq_error_iff, readText_eq_error_iff, mapError_eq_ok_iff,
    mapError_eq_error_iff, compileStrided_eq_ok_iff, compileStrided_eq_error_iff,
    loadValues_eq_ok_iff, loadValues_eq_error_iff, ite_throw_eq_error_iff] at h
  rcases h with ⟨e, h, rfl⟩ | ⟨f, hf, ⟨path, hs, e, ⟨e, h, rfl⟩ | ⟨bytes, hr, h, rfl⟩, rfl⟩ |
    ⟨text, ht, ⟨e, ⟨hn, rfl⟩ | ⟨hn, h⟩, rfl⟩ | ⟨p, ⟨hn, hp⟩, h⟩⟩⟩
  · exact .format h
  · exact .unreadable hf hs h
  · exact .notText hf hs hr h
  · cases hc : a.channels? with
    | none =>
      rw [hc] at hn
      exact absurd rfl hn
    | some n =>
      rw [hc] at hn
      exact .channels hf ht hc hn
  · exact .compile hf ht (Job.getD_channels_eq_iff.mp hn) h
  · obtain ⟨-, rfl, -⟩ := compile_eq_ok_iff.mp hp
    have hsettles : a.Settles files p := ⟨hf, Job.getD_channels_eq_iff.mp hn, text, ht, hp⟩
    rcases h with (⟨e, h, rfl⟩ | ⟨bytes, hr, h, rfl⟩) | ⟨values, ⟨bytes, hr, hv⟩, h, rfl⟩
    · exact .input hsettles h
    · exact .bytes hsettles hr h
    · have hb : bytes.size % 8 = 0 := (RawBuffer.decode_eq_ok_iff.mp hv).1
      have hlength : values.length = bytes.size / 8 := RawBuffer.length_of_decode hv
      rw [hn, hlength] at h ⊢
      exact .pixels hsettles hr hb h

/-- A run that comes to its output has a job. -/
theorem Loads.prepare_eq {p : Program} {bytes : ByteArray} (h : a.Loads files p bytes)
    {values : List Float} (hv : RawBuffer.decode bytes.data.toList = .ok values) :
    Job.prepare files a.input a.format a.channels? a.source =
      .ok ⟨p, p.format.channels, values⟩ :=
  Job.prepare_eq_ok_iff.mpr ⟨h.toSettles, rfl, bytes, h.read, h.whole, hv⟩

/-- The doubles of a run that comes to its output form whole pixels. -/
theorem Loads.length_mod {p : Program} {bytes : ByteArray} (h : a.Loads files p bytes)
    {values : List Float} (hv : RawBuffer.decode bytes.data.toList = .ok values) :
    values.length % p.format.channels = 0 :=
  (RawBuffer.length_mod_eq_zero_iff hv _).mpr h.whole

theorem Loads.exists_decode {p : Program} {bytes : ByteArray} (h : a.Loads files p bytes) :
    ∃ values, RawBuffer.decode bytes.data.toList = .ok values := by
  obtain ⟨values, hv, -⟩ := RawBuffer.exists_decode_of_whole h.whole
  exact ⟨values, hv⟩

/-- A run with a job comes to its output. -/
theorem exists_loads_of_prepare {job : Job}
    (h : Job.prepare files a.input a.format a.channels? a.source = .ok job) :
    job.stride = job.program.format.channels ∧ ∃ bytes, a.Loads files job.program bytes ∧
      RawBuffer.decode bytes.data.toList = .ok job.values := by
  obtain ⟨hp, hstride, bytes, hr, hb, hv⟩ := Job.prepare_eq_ok_iff.mp h
  exact ⟨hstride, bytes, ⟨hp, hr, hb⟩, hv⟩

/-- What is refused to a run that opens its output is up to the output. -/
theorem Opens.refusal?_eq {p : Program} {bytes : ByteArray} {sink : Sink}
    (h : a.Opens files p bytes sink) (count : Nat) :
    files.refusal? a.output count = sink.error? count := by
  rw [Files.refusal?, h.create]

/-- The failures of a run as its checks report them. -/
theorem fails_iff :
    a.Fails files failure ↔
      Job.prepare files a.input a.format a.channels? a.source = .error failure ∨
        ∃ job e, Job.prepare files a.input a.format a.channels? a.source = .ok job ∧
          files.refusal? a.output (8 * job.values.length) = some e ∧
          failure = .notSaved a.output e := by
  constructor
  · intro h
    cases h with
    | format h =>
      rw [Job.prepare, readFormat_eq_error_iff.mpr ⟨_, h, rfl⟩]
      exact .inl rfl
    | unreadable hf hs h =>
      have htext := readText_eq_error_iff.mpr (.inl ⟨_, h, rfl⟩)
      rw [Job.prepare, readFormat_eq_ok_iff.mpr hf, ok_bind,
        readSource_eq_error_iff.mpr ⟨_, hs, _, htext, rfl⟩]
      exact .inl rfl
    | notText hf hs hr h =>
      have htext := readText_eq_error_iff.mpr (.inr ⟨_, hr, h, rfl⟩)
      rw [Job.prepare, readFormat_eq_ok_iff.mpr hf, ok_bind,
        readSource_eq_error_iff.mpr ⟨_, hs, _, htext, rfl⟩]
      exact .inl rfl
    | @channels f text n hf ht hn h =>
      have hstride : a.channels?.getD f.channels = n := by rw [hn, Option.getD_some]
      have hcompile : compileStrided f n text = .error (.strideMismatch (some f) f.channels n) :=
        compileStrided_eq_error_iff.mpr (.inl ⟨h, rfl⟩)
      rw [Job.prepare_of_parse hf ht hstride, mapError_eq_error_iff.mpr ⟨_, hcompile, rfl⟩]
      exact .inl rfl
    | compile hf ht hn h =>
      have hcompile := compileStrided_eq_error_iff.mpr (.inr ⟨rfl, h⟩)
      rw [Job.prepare_of_parse hf ht (Job.getD_channels_eq_iff.mpr hn),
        mapError_eq_error_iff.mpr ⟨_, hcompile, rfl⟩]
      exact .inl rfl
    | input hp h =>
      rw [Job.prepare_of_settles hp, loadValues_eq_error_iff.mpr (.inl ⟨_, h, rfl⟩)]
      exact .inl rfl
    | bytes hp hr h =>
      rw [Job.prepare_of_settles hp, loadValues_eq_error_iff.mpr (.inr ⟨_, hr, h, rfl⟩)]
      exact .inl rfl
    | pixels hp hr hb h =>
      obtain ⟨values, hv, hlength⟩ := RawBuffer.exists_decode hb
      rw [← hlength] at h ⊢
      rw [Job.prepare_of_settles hp, loadValues_eq_ok_iff.mpr ⟨_, hr, hv⟩, ok_bind, if_pos h]
      exact .inl rfl
    | output hl h =>
      obtain ⟨values, hv⟩ := hl.exists_decode
      rw [RawBuffer.size_of_decode hv] at h
      exact .inr ⟨_, _, hl.prepare_eq hv, h, rfl⟩
  · rintro (h | ⟨job, e, hjob, h, rfl⟩)
    · exact fails_of_prepare_eq_error h
    · obtain ⟨-, bytes, hl, hv⟩ := exists_loads_of_prepare hjob
      exact .output hl (RawBuffer.size_of_decode hv ▸ h)

/-- A run that cannot be carried out has a first check that fails. -/
theorem accepts_or_fails (a : RunArguments) (files : Files) :
    (∃ p bytes, a.Accepts files p bytes) ∨ ∃ failure, a.Fails files failure := by
  cases hjob : Job.prepare files a.input a.format a.channels? a.source with
  | error failure => exact .inr ⟨failure, fails_of_prepare_eq_error hjob⟩
  | ok job =>
    obtain ⟨-, bytes, hl, -⟩ := exists_loads_of_prepare hjob
    cases h : files.refusal? a.output bytes.size with
    | some e => exact .inr ⟨_, .output hl h⟩
    | none => exact .inl ⟨job.program, bytes, hl, h⟩

/-- Only one check is the first to fail. -/
theorem Fails.unique {failure' : Failure} (h : a.Fails files failure)
    (h' : a.Fails files failure') : failure = failure' := by
  rcases fails_iff.mp h with hp | ⟨job, e, hp, hr, rfl⟩ <;>
    rcases fails_iff.mp h' with hp' | ⟨job', e', hp', hr', rfl⟩ <;> rw [hp] at hp'
  · exact Except.error.inj hp'
  · cases hp'
  · cases hp'
  · cases hp'
    rw [hr] at hr'
    rw [Option.some.inj hr']

end RunArguments

/-! ### What a run leaves behind -/

/-- The machine with the given number of workers, or with all of its own for zero. -/
def withThreads (host : Host) (threads : Nat) : Host :=
  if threads = 0 then host else { host with workers := threads }

/-- The bytes that a run makes are eight for each double of its input. -/
theorem length_encode_pixelsAfter {p : Program} {values : List Float}
    (hb : values.length % p.format.channels = 0) (c : Config) (host : Host) :
    (RawBuffer.encode (Engine.pixelsAfter c host p values).flatten).length =
      8 * values.length := by
  have hlength : (Engine.run c host p values).buffer.length = values.length := Engine.length_run hb
  rw [Engine.run_of_whole c host p hb] at hlength
  rw [RawBuffer.length_encode, hlength]

section Finish

variable {job : Job} (hstride : job.stride = job.program.format.channels)
  (hb : job.values.length % job.program.format.channels = 0)

include hstride hb

/-- Behind the checks the engine refuses nothing. -/
theorem Job.runStrided_eq (c : Config) (host : Host) :
    Engine.runStrided c host job.program job.stride job.values =
      { outcome := .ok (Engine.report c host job.program
          (job.values.length / job.program.format.channels))
        buffer := (Engine.pixelsAfter c host job.program job.values).flatten } := by
  rw [hstride]
  exact Engine.run_of_whole c host job.program hb

variable {files : Files} {output : String} (c : Config) (host : Host) (input : String)
  (verbose : Bool)

/-- What is left in the output is what it took, however the writing ends. -/
theorem Job.written?_finish :
    (job.finish c host files input output verbose).written? =
      (files.save output (RawBuffer.encode
        (Engine.pixelsAfter c host job.program job.values).flatten)).written? := by
  simp only [finish, runStrided_eq hstride hb]
  split <;> rfl

theorem Job.finish_of_refusal {e : FileError}
    (h : files.refusal? output (8 * job.values.length) = some e) :
    (job.finish c host files input output verbose).exitCode = 1 ∧
      (job.finish c host files input output verbose).stderr =
        (Failure.notSaved output e).report := by
  rw [← length_encode_pixelsAfter hb c host, ← Files.error?_save] at h
  simp only [finish, runStrided_eq hstride hb, h]
  exact ⟨rfl, rfl⟩

theorem Job.finish_of_writable (h : files.refusal? output (8 * job.values.length) = none) :
    (job.finish c host files input output verbose).exitCode = 0 ∧
      (job.finish c host files input output verbose).stderr = "" := by
  rw [← length_encode_pixelsAfter hb c host, ← Files.error?_save] at h
  simp only [finish, runStrided_eq hstride hb, h, and_self]

end Finish

section Execute

variable (host : Host) {files : Files} {a : RunArguments} (verbosity threads : Nat)
  (seed? : Option UInt64)

theorem execute_request (a : RunArguments) (files : Files) :
    execute host files { verbosity, threads, seed?, request := a.request } =
      match Job.prepare files a.input a.format a.channels? a.source with
      | .error failure => .failed failure
      | .ok job => job.finish { seed? } (withThreads host threads) files a.input a.output
          (verbosity ≠ 0) :=
  rfl

/-- When a check fails, it is reported. -/
theorem execute_of_fails {failure : Failure} (h : a.Fails files failure) :
    let o := execute host files { verbosity, threads, seed?, request := a.request }
    o.exitCode = 1 ∧ o.stderr = failure.report := by
  rw [execute_request]
  rcases RunArguments.fails_iff.mp h with hjob | ⟨job, e, hjob, hr, rfl⟩ <;> rw [hjob]
  · exact ⟨rfl, rfl⟩
  · obtain ⟨hstride, bytes, hl, hv⟩ := RunArguments.exists_loads_of_prepare hjob
    exact Job.finish_of_refusal hstride (hl.length_mod hv) _ _ a.input _ hr

/-- A run that does not open its output touches no file. -/
theorem written?_execute_of_not_opens (h : ∀ p bytes sink, ¬a.Opens files p bytes sink) :
    (execute host files { verbosity, threads, seed?, request := a.request }).written? = none := by
  rw [execute_request]
  cases hjob : Job.prepare files a.input a.format a.channels? a.source with
  | error failure => rfl
  | ok job =>
    obtain ⟨hstride, bytes, hl, hv⟩ := RunArguments.exists_loads_of_prepare hjob
    dsimp only
    rw [Job.written?_finish hstride (hl.length_mod hv), Files.save]
    cases hcreate : files.create a.output with
    | error e => rfl
    | ok sink => exact absurd ⟨hl, hcreate⟩ (h _ _ _)

variable {p : Program} {bytes : ByteArray} {values : List Float}

/-- A run that comes to its output writes what the program makes of its input. -/
theorem written?_execute_of_loads (h : a.Loads files p bytes)
    (hv : RawBuffer.decode bytes.data.toList = .ok values) :
    (execute host files { verbosity, threads, seed?, request := a.request }).written? =
      (files.save a.output (RawBuffer.encode (Engine.pixelsAfter { seed? }
        (withThreads host threads) p values).flatten)).written? := by
  rw [execute_request, h.prepare_eq hv]
  exact Job.written?_finish rfl (h.length_mod hv) _ _ a.input _

/-- When all checks hold, the whole output is written. -/
theorem execute_of_accepts (h : a.Accepts files p bytes)
    (hv : RawBuffer.decode bytes.data.toList = .ok values) :
    let o := execute host files { verbosity, threads, seed?, request := a.request }
    o.exitCode = 0 ∧ o.stderr = "" ∧ o.written? = some (a.output, ⟨(RawBuffer.encode
      (Engine.pixelsAfter { seed? } (withThreads host threads) p values).flatten).toArray⟩) := by
  intro o
  have hmod : values.length % p.format.channels = 0 := h.length_mod hv
  have hroom := h.writable
  rw [RawBuffer.size_of_decode hv] at hroom
  have hend : o.exitCode = 0 ∧ o.stderr = "" := by
    simp only [o, execute_request, h.prepare_eq hv]
    exact Job.finish_of_writable rfl hmod _ _ a.input _ hroom
  refine ⟨hend.1, hend.2, ?_⟩
  refine (written?_execute_of_loads host verbosity threads seed? h.toLoads hv).trans ?_
  refine Files.written?_save_of_refusal? ?_
  rwa [length_encode_pixelsAfter hmod]

end Execute

/-- The number of workers makes the same plan on both of its ways to the engine. -/
theorem plan_withThreads {threads : Nat} (hthreads : 0 < threads) (host host' : Host)
    (seed? : Option UInt64) (seed : UInt64) (pixels : Nat) :
    Engine.plan { seed? } (withThreads host threads) pixels =
      Engine.plan { threads, seed? := some seed } host' pixels := by
  simp only [Engine.plan, Config.workers, withThreads, if_neg hthreads.ne', if_true]

/-- Under a seed a run is the same wherever it is planned in the same way. -/
theorem pixelsAfter_of_plan_eq {c c' : Config} {host host' : Host} {seed : UInt64} {p : Program}
    {values : List Float} (hseed : c.seed? = some seed) (hseed' : c'.seed? = some seed)
    (hplan : ∀ pixels, Engine.plan c host pixels = Engine.plan c' host' pixels) :
    Engine.pixelsAfter c host p values = Engine.pixelsAfter c' host' p values := by
  rw [Engine.pixelsAfter_of_seed host p hseed fun _ => 0,
    Engine.pixelsAfter_of_seed host' p hseed' fun _ => 0, hplan]

/-- **A run is exact, and all or nothing until it opens its output.** It succeeds if and only if its
format has a name, the text of its program can be read, the channels that were given are those of
the format, the text compiles, the input can be read and its bytes form whole pixels of doubles, and
the output can be opened and has room for as many bytes. Otherwise exactly one of these is the first
to fail, in this order, and it is reported. No check divides by zero, not even for pixels that are
given no channels. Unless the output is opened, no file is touched. If it is, no other file is, and
the output takes the doubles of what the program makes of the pixels, as many bytes as were read:
all of them if the run succeeds, and otherwise the first ones, but not all. A program without `rand`
makes the same of each pixel whatever the number of workers is, and under a seed the run is that of
an engine with this number of workers in its settings. What is said about the error output is said
where nothing is logged. -/
theorem execute_run (host : Host) (files : Files) (a : RunArguments) (verbosity threads : Nat)
    (seed? : Option UInt64) :
    let o := execute host files { verbosity, threads, seed?, request := a.request }
    (o.exitCode = 0 ↔ ∃ p bytes, a.Accepts files p bytes) ∧
      (o.exitCode ≠ 0 → ∃! failure, a.Fails files failure) ∧
      (∀ failure, a.Fails files failure →
        o.exitCode = 1 ∧ (verbosity = 0 → o.stderr = failure.report)) ∧
      (o.exitCode = 0 → verbosity = 0 → o.stderr = "") ∧
      (Job.checkedPrepare files a.input a.format a.channels? a.source).run =
        .ok (Job.prepare files a.input a.format a.channels? a.source) ∧
      ((∀ p bytes sink, ¬a.Opens files p bytes sink) → o.written? = none) ∧
      ∀ p bytes sink, a.Opens files p bytes sink → ∃ values out,
        RawBuffer.decode bytes.data.toList = .ok values ∧ o.written? = some (a.output, out) ∧
          let whole := RawBuffer.encode
            (Engine.pixelsAfter { seed? } (withThreads host threads) p values).flatten
          whole.length = bytes.size ∧ out.data.toList = sink.taken whole ∧
            out.data.toList <+: whole ∧ (o.exitCode = 0 ↔ out.data.toList = whole) ∧
            (p.usesRandom = false → ∀ samples carry, whole = RawBuffer.encode
              ((groups p.format.channels values).map fun pixel =>
                (p.runPixel samples pixel carry).1).flatten) ∧
            ∀ seed, seed? = some seed → 0 < threads → ∀ host', whole = RawBuffer.encode
              (Engine.run { threads, minPartitionPixels := 4096, seed? := some seed } host' p
                values).buffer := by
  intro o
  have hfails (failure : Failure) (h : a.Fails files failure) :
      o.exitCode = 1 ∧ o.stderr = failure.report :=
    execute_of_fails host verbosity threads seed? h
  have hends {p : Program} {bytes : ByteArray} (h : a.Accepts files p bytes) :
      o.exitCode = 0 ∧ o.stderr = "" := by
    obtain ⟨values, hv⟩ := h.exists_decode
    obtain ⟨hcode, hstderr, -⟩ := execute_of_accepts host verbosity threads seed? h hv
    exact ⟨hcode, hstderr⟩
  have haccepts (h : o.exitCode = 0) : ∃ p bytes, a.Accepts files p bytes := by
    refine (a.accepts_or_fails files).resolve_right fun ⟨failure, hf⟩ => ?_
    rw [(hfails failure hf).1] at h
    cases h
  refine ⟨⟨haccepts, fun ⟨p, bytes, h⟩ => (hends h).1⟩, fun h => ?_,
    fun failure h => ⟨(hfails failure h).1, fun _ => (hfails failure h).2⟩, fun h _ => ?_,
    Job.checkedPrepare_eq _ _ _ _ _, written?_execute_of_not_opens host verbosity threads seed?,
    fun p bytes sink h => ?_⟩
  · obtain ⟨failure, hf⟩ :=
      (a.accepts_or_fails files).resolve_left fun ⟨_, _, ha⟩ => h (hends ha).1
    exact ⟨failure, hf, fun _ hf' => hf'.unique hf⟩
  · obtain ⟨p, bytes, ha⟩ := haccepts h
    exact (hends ha).2
  · obtain ⟨values, hv⟩ := h.exists_decode
    have hlength : (RawBuffer.encode (Engine.pixelsAfter { seed? } (withThreads host threads) p
        values).flatten).length = bytes.size :=
      (length_encode_pixelsAfter (h.length_mod hv) _ _).trans (RawBuffer.size_of_decode hv).symm
    refine ⟨values, _, hv, (written?_execute_of_loads host verbosity threads seed? h.toLoads
      hv).trans (Files.written?_save_of_create h.create), hlength, rfl, sink.taken_isPrefix _, ?_,
      fun hp samples carry => ?_, fun seed hseed hthreads host' => ?_⟩
    · -- All checks before the output hold, so only its room decides how the run ends.
      refine Iff.trans ⟨fun hcode => ?_, fun hroom => ?_⟩ Sink.taken_eq_iff.symm
      · obtain ⟨p', bytes', ha⟩ := haccepts hcode
        obtain rfl : bytes' = bytes := Except.ok.inj (ha.read.symm.trans h.read)
        rw [hlength, ← h.refusal?_eq]
        exact ha.writable
      · rw [hlength, ← h.refusal?_eq] at hroom
        exact (hends ⟨h.toLoads, hroom⟩).1
    · rw [← Engine.pixelsAfter_of_not_usesRandom { seed? } (withThreads host threads) hp]
    · rw [Engine.run_of_whole _ host' p (h.length_mod hv), pixelsAfter_of_plan_eq hseed rfl
        (plan_withThreads hthreads host host' seed? seed)]

/-- A run on one pixel clears its green. With pixels of no channels the same run is refused before
its input is looked at. -/
theorem execute_run_rgb :
    let files : Files :=
      { read := fun path =>
          if path = "in" then .ok ⟨(RawBuffer.encode [1, 2, 3]).toArray⟩ else .error .notFound
        create := fun _ => .ok .unlimited }
    let run (input : String) (channels? : Option Nat) : Outcome :=
      execute {} files ⟨1, 2, none, .run input "out" "rgb" channels? (.inline "G = 0")⟩
    (∃ out, (run "in" none).written? = some ("out", out) ∧
        out.data.toList = RawBuffer.encode [1, 0, 3]) ∧
      (run "missing" (some 0)).exitCode = 1 ∧ (run "missing" (some 0)).written? = none := by
  intro files run
  let clear (input : String) (channels? : Option Nat) : RunArguments :=
    ⟨input, "out", "rgb", channels?, .inline "G = 0"⟩
  have hformat : PixelFormat.parse "rgb" = .ok .rgb := by decide +kernel
  have hp : compile .rgb "G = 0" = .ok ⟨.rgb, [⟨.channel 1, .set, .literal 0⟩]⟩ := by
    decide +kernel
  have hdecode : RawBuffer.decode (RawBuffer.encode [1, 2, 3]) = .ok [1, 2, 3] := by
    decide +kernel
  constructor
  · have hopens : (clear "in" none).Opens files ⟨.rgb, [⟨.channel 1, .set, .literal 0⟩]⟩
        ⟨(RawBuffer.encode [1, 2, 3]).toArray⟩ .unlimited :=
      { format := hformat
        channels := fun _ h => nomatch h
        compiles := ⟨_, .inline _, hp⟩
        read := rfl
        whole := by decide +kernel
        create := rfl }
    obtain ⟨values, out, hv, hwritten, -, htaken, -, -, hpixels, -⟩ :=
      (execute_run {} files (clear "in" none) 1 2 none).2.2.2.2.2.2 _ _ _ hopens
    obtain rfl := Except.ok.inj (hdecode.symm.trans hv)
    refine ⟨out, hwritten, htaken.trans ((hpixels rfl (fun _ => 0) {}).trans ?_)⟩
    decide +kernel
  · have hfails : (clear "missing" (some 0)).Fails files _ :=
      .channels hformat (.inline _) rfl (by decide)
    have hrun := execute_run {} files (clear "missing" (some 0)) 1 2 none
    refine ⟨(hrun.2.2.1 _ hfails).1, hrun.2.2.2.2.2.1 fun p bytes sink h => ?_⟩
    cases h.read

/-- **A run is not all or nothing once its output is open.** Here the output, which is the input as
well, has room for ten bytes only: the run fails, and of three doubles there are left one and a
quarter. Nor is it the whole output that is found after every run that succeeds: the null device
takes each byte and holds none. -/
theorem execute_run_short_of_room :
    let bytes : ByteArray := ⟨(RawBuffer.encode [1, 2, 3]).toArray⟩
    let files : Files :=
      { read := fun path => if path = "in" then .ok bytes else .error .notFound
        create := fun _ => .ok (.limited 10 .noSpace) }
    let short := execute {} files ⟨0, 0, none, .run "in" "in" "rgb" none (.inline "G = 0")⟩
    let null := executeArguments {} (.ofList [("in", bytes)])
      ["run", "in", "-o", "/dev/null", "-f", "rgb", "-e", "G = 0"]
    (short.exitCode = 1 ∧
        short.stderr =
          "Error: Failed to save: in\n\nCaused by:\n    No space left on device (os error 28)\n" ∧
        short.written? = some ("in", ⟨((RawBuffer.encode [1, 0, 3]).take 10).toArray⟩)) ∧
      null.exitCode = 0 ∧
      (∃ out, null.written? = some ("/dev/null", out) ∧ out.size = bytes.size ∧
        Path.change? [("in", bytes)] "/dev/null" out = none) := by
  intro bytes files short null
  refine ⟨by decide +kernel, by decide +kernel, ⟨(RawBuffer.encode [1, 0, 3]).toArray⟩,
    by decide +kernel, by decide +kernel, by decide +kernel⟩

end PixelMath.Command
