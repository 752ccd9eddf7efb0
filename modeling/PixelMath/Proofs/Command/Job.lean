import PixelMath.Command.Execute
import PixelMath.Proofs.Checked
import PixelMath.Proofs.Program.Compile
import PixelMath.Proofs.RawBuffer

/-!
# The checks of a run

A run looks at the name of its format, at the text of its program, at the channels it was given, at
what the text compiles to, and only then at its input. Each reader is described here by what it
takes to succeed and by what it says when it fails; the job of a run is put together from these.

## Main definitions

* `RunArguments` — the arguments of a run.
* `ProgramSource.Holds` — the text of a program, given or in a file.
* `RunArguments.Settles` — the program of a run, settled before its input is looked at.
* `Job.checkedPrepare` — the checks of a run with a division that reports its fault.

## Main results

* `Job.prepare_eq_ok_iff` — what it takes to prepare a job.
* `Job.checkedPrepare_eq` — no check divides by zero.
-/

namespace PixelMath

namespace Command

universe u v w

section Except

variable {ε : Type u} {ε' : Type v} {α : Type w} {f : ε → ε'} {x : Except ε α}

theorem mapError_eq_ok_iff {a : α} : x.mapError f = .ok a ↔ x = .ok a := by
  cases x <;> simp [Except.mapError]

theorem mapError_eq_error_iff {e' : ε'} :
    x.mapError f = .error e' ↔ ∃ e, x = .error e ∧ e' = f e := by
  cases x <;> simp [Except.mapError, eq_comm]

/-- A check in front of a result. -/
theorem ite_throw_eq_ok_iff {c : Prop} [Decidable c] {e : ε} {a b : α} :
    (if c then do throw e; pure a else pure a : Except ε α) = .ok b ↔ ¬c ∧ a = b := by
  split
  · next h => exact iff_of_false (fun h' => nomatch h') fun h' => h'.1 h
  · next h => rw [and_iff_right h]; exact Except.ok.injEq a b ▸ Iff.rfl

theorem ite_throw_eq_error_iff {c : Prop} [Decidable c] {e e' : ε} {a : α} :
    (if c then do throw e; pure a else pure a : Except ε α) = .error e' ↔ c ∧ e = e' := by
  split
  · next h => rw [and_iff_right h]; exact Except.error.injEq e e' ▸ Iff.rfl
  · next h => exact iff_of_false (fun h' => nomatch h') fun h' => h h'.1

end Except

/-! ### The text of a program -/

/-- The source holds the text: it is the text itself, or a file with the text in UTF-8. -/
inductive ProgramSource.Holds (files : Files) : ProgramSource → String → Prop
  | inline (text : String) : Holds files (.inline text) text
  | file {path text : String} (h : files.read path = .ok text.toUTF8) :
    Holds files (.file path) text

theorem fromUTF8?_eq_some_iff {bytes : ByteArray} {text : String} :
    String.fromUTF8? bytes = some text ↔ bytes = text.toUTF8 := by
  rw [String.fromUTF8?]
  constructor
  · intro h
    split at h
    · cases h
      rfl
    · cases h
  · rintro rfl
    exact dif_pos text.isValidUTF8

theorem fromUTF8?_eq_none_iff {bytes : ByteArray} :
    String.fromUTF8? bytes = none ↔ ∀ text : String, bytes ≠ text.toUTF8 := by
  rw [Option.eq_none_iff_forall_ne_some]
  exact forall_congr' fun text => not_congr fromUTF8?_eq_some_iff

variable {files : Files} {failure : Failure}

theorem readText_eq_ok_iff {path text : String} :
    files.readText path = .ok text ↔ files.read path = .ok text.toUTF8 := by
  rw [Files.readText]
  cases files.read path with
  | error e => simp only [reduceCtorEq]
  | ok bytes =>
    simp only [Except.ok.injEq, ← fromUTF8?_eq_some_iff]
    cases String.fromUTF8? bytes <;> simp

/-- No text can be read from a file that cannot be read or whose bytes are no text. -/
theorem readText_eq_error_iff {path : String} {e : TextError} :
    files.readText path = .error e ↔ (∃ e', files.read path = .error e' ∧ e = .file e') ∨
      ∃ bytes, files.read path = .ok bytes ∧ (∀ text : String, bytes ≠ text.toUTF8) ∧
        e = .notText := by
  rw [Files.readText]
  cases files.read path with
  | error e' => simp [eq_comm]
  | ok bytes =>
    simp only [reduceCtorEq, false_and, exists_false, false_or, Except.ok.injEq, exists_eq_left',
      ← fromUTF8?_eq_none_iff]
    cases String.fromUTF8? bytes <;> simp [eq_comm]

theorem readSource_eq_ok_iff {source : ProgramSource} {text : String} :
    readSource files source = .ok text ↔ source.Holds files text := by
  cases source with
  | inline text' =>
    rw [readSource, Except.ok.injEq]
    refine ⟨fun h => h ▸ .inline text', ?_⟩
    rintro ⟨⟩
    rfl
  | file path =>
    rw [readSource, mapError_eq_ok_iff, readText_eq_ok_iff]
    exact ⟨.file, fun | .file h => h⟩

theorem readSource_eq_error_iff {source : ProgramSource} :
    readSource files source = .error failure ↔ ∃ path, source = .file path ∧
      ∃ e, files.readText path = .error e ∧ failure = .unreadableProgram path e := by
  cases source with
  | inline text => simp only [readSource, reduceCtorEq, false_and, exists_false]
  | file path =>
    simp only [readSource, mapError_eq_error_iff, ProgramSource.file.injEq, exists_eq_left']

/-! ### The other readers -/

theorem readFormat_eq_ok_iff {name : String} {f : PixelFormat} :
    readFormat name = .ok f ↔ PixelFormat.parse name = .ok f :=
  mapError_eq_ok_iff

theorem readFormat_eq_error_iff {name : String} :
    readFormat name = .error failure ↔
      ∃ e, PixelFormat.parse name = .error e ∧ failure = .invalidFormat name e :=
  mapError_eq_error_iff

theorem loadValues_eq_ok_iff {path : String} {values : List Float} :
    loadValues files path = .ok values ↔
      ∃ bytes, files.read path = .ok bytes ∧ RawBuffer.decode bytes.data.toList = .ok values := by
  simp only [loadValues, bind_eq_ok_iff, mapError_eq_ok_iff]

theorem loadValues_eq_error_iff {path : String} :
    loadValues files path = .error failure ↔
      (∃ e, files.read path = .error e ∧ failure = .notLoaded path e) ∨
        ∃ bytes, files.read path = .ok bytes ∧ bytes.size % 8 ≠ 0 ∧
          failure = .invalidBuffer path ⟨bytes.size⟩ := by
  simp only [loadValues, bind_eq_error_iff, mapError_eq_ok_iff, mapError_eq_error_iff,
    RawBuffer.decode_eq_error_iff]
  refine or_congr_right (exists_congr fun bytes => and_congr_right fun _ => ⟨?_, ?_⟩)
  · rintro ⟨e, ⟨hbytes, rfl⟩, h⟩
    exact ⟨hbytes, h⟩
  · rintro ⟨hbytes, h⟩
    exact ⟨_, ⟨hbytes, rfl⟩, h⟩

/-! ### Jobs -/

/-- The arguments of a run. -/
structure RunArguments where
  input : String
  output : String
  /-- The name of the format. -/
  format : String
  /-- The number of channels per pixel, where it was given. -/
  channels? : Option Nat
  source : ProgramSource

namespace RunArguments

/-- The request to run a program. -/
def request (a : RunArguments) : Request :=
  .run a.input a.output a.format a.channels? a.source

/-- The run has the program: its format has a name, the channels that were given are those of the
format, and the text of the program compiles to it. -/
structure Settles (a : RunArguments) (files : Files) (p : Program) : Prop where
  format : PixelFormat.parse a.format = .ok p.format
  channels : ∀ n ∈ a.channels?, n = p.format.channels
  compiles : ∃ text, a.source.Holds files text ∧ compile p.format text = .ok p

end RunArguments

namespace Job

variable {a : RunArguments}

theorem getD_channels_eq_iff {channels? : Option Nat} {n : Nat} :
    channels?.getD n = n ↔ ∀ m ∈ channels?, m = n := by
  cases channels? <;> simp

/-- With a format, a text and the channels of a pixel, the text is compiled. -/
theorem prepare_of_parse {f : PixelFormat} {text : String} {stride : Nat}
    (hf : PixelFormat.parse a.format = .ok f) (ht : a.source.Holds files text)
    (hstride : a.channels?.getD f.channels = stride) :
    prepare files a.input a.format a.channels? a.source =
      ((compileStrided f stride text).mapError .notCompiled >>= fun program =>
        loadValues files a.input >>= fun values =>
          if values.length % stride ≠ 0 then throw (.raggedPixels a.input values.length stride)
          else return { program, stride, values }) := by
  subst hstride
  rw [prepare, readFormat_eq_ok_iff.mpr hf, ok_bind, readSource_eq_ok_iff.mpr ht, ok_bind]
  rfl

/-- Once the program is settled, the input is looked at. -/
theorem prepare_of_settles {p : Program} (hp : a.Settles files p) :
    prepare files a.input a.format a.channels? a.source =
      (loadValues files a.input >>= fun values =>
        if values.length % p.format.channels ≠ 0 then
          throw (.raggedPixels a.input values.length p.format.channels)
        else return { program := p, stride := p.format.channels, values }) := by
  obtain ⟨text, ht, hcompile⟩ := hp.compiles
  have hstride := getD_channels_eq_iff.mpr hp.channels
  rw [prepare_of_parse hp.format ht hstride,
    mapError_eq_ok_iff.mpr (compileStrided_eq_ok_iff.mpr ⟨rfl, hcompile⟩), ok_bind]

/-- **What it takes to prepare a job.** The program is settled, and the bytes of the input form
whole pixels of doubles. -/
theorem prepare_eq_ok_iff {job : Job} :
    prepare files a.input a.format a.channels? a.source = .ok job ↔
      a.Settles files job.program ∧ job.stride = job.program.format.channels ∧
        ∃ bytes, files.read a.input = .ok bytes ∧
          bytes.size % (8 * job.program.format.channels) = 0 ∧
          RawBuffer.decode bytes.data.toList = .ok job.values := by
  constructor
  · intro h
    simp only [prepare, bind_eq_ok_iff, readFormat_eq_ok_iff, readSource_eq_ok_iff,
      mapError_eq_ok_iff, compileStrided_eq_ok_iff, loadValues_eq_ok_iff, ite_throw_eq_ok_iff,
      ne_eq, not_not] at h
    obtain ⟨f, hf, text, htext, p, ⟨hstride, hp⟩, values, ⟨bytes, hread, hvalues⟩, hwhole, rfl⟩ := h
    obtain ⟨-, rfl, -⟩ := compile_eq_ok_iff.mp hp
    rw [hstride] at hwhole
    exact ⟨⟨hf, getD_channels_eq_iff.mp hstride, text, htext, hp⟩, hstride, bytes, hread,
      (RawBuffer.length_mod_eq_zero_iff hvalues _).mp hwhole, hvalues⟩
  · obtain ⟨p, stride, values⟩ := job
    rintro ⟨hp, hstride, bytes, hread, hwhole, hvalues⟩
    obtain rfl : stride = p.format.channels := hstride
    have hmod := (RawBuffer.length_mod_eq_zero_iff hvalues _).mpr hwhole
    rw [prepare_of_settles hp, loadValues_eq_ok_iff.mpr ⟨bytes, hread, hvalues⟩, ok_bind,
      if_neg (not_not_intro hmod)]
    rfl

/-! ### Checks that report their faults -/

/-- The job of a run, with a division that reports its fault. -/
def checkedPrepare (files : Files) (input format : String) (channels? : Option Nat)
    (source : ProgramSource) : ExceptT Failure (Except Fault) Job := do
  let f ← ExceptT.mk (pure (readFormat format))
  let stride := channels?.getD f.channels
  let text ← ExceptT.mk (pure (readSource files source))
  let program ← ExceptT.mk (pure ((compileStrided f stride text).mapError .notCompiled))
  let values ← ExceptT.mk (pure (loadValues files input))
  let rest ← ExceptT.lift (checkedMod values.length stride)
  if rest ≠ 0 then throw (.raggedPixels input values.length stride)
  return { program, stride, values }

/-- A step that can fail, but not with a fault, in front of steps that meet no fault. -/
theorem run_mk_bind_eq {α β : Type} {x : Except Failure α}
    {k : α → ExceptT Failure (Except Fault) β} {g : α → Except Failure β}
    (h : ∀ a, x = .ok a → (k a).run = .ok (g a)) :
    (ExceptT.mk (pure x) >>= k).run = .ok (x >>= g) := by
  cases x with
  | error e => rfl
  | ok a => exact h a rfl

theorem run_lift_bind {α β : Type} (a : α) (k : α → ExceptT Failure (Except Fault) β) :
    (ExceptT.lift (.ok a) >>= k).run = (k a).run := rfl

/-- **No check divides by zero.** When the input is looked at, the channels are those of a
format. -/
theorem checkedPrepare_eq (files : Files) (input format : String) (channels? : Option Nat)
    (source : ProgramSource) :
    (checkedPrepare files input format channels? source).run =
      .ok (prepare files input format channels? source) := by
  refine run_mk_bind_eq fun f _ => run_mk_bind_eq fun text _ => run_mk_bind_eq fun p hp =>
    run_mk_bind_eq fun values _ => ?_
  have hstride := (compileStrided_eq_ok_iff.mp (mapError_eq_ok_iff.mp hp)).1
  have hpos : 0 < channels?.getD f.channels := f.channels_pos.trans_eq hstride.symm
  rw [checkedMod_eq hpos, run_lift_bind]
  by_cases hrest : values.length % channels?.getD f.channels ≠ 0
  · rw [if_pos hrest, if_pos hrest]
    rfl
  · rw [if_neg hrest, if_neg hrest]
    rfl

end Job

end Command

end PixelMath
