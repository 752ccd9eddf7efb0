import PixelMath.Proofs.Engine.Run
import PixelMath.Proofs.Program.Language

/-!
# The outcome of an application

An application checks the announced size, then the length of the buffer, then the program text, and
only then it runs. The first check that fails decides the outcome; when all of them hold, the run
has nothing left to refuse. So the outcome is known from the length of the buffer and the text, and
a buffer that is not worked on is left as it is.

## Main results

* `Engine.apply_of_sizeLimit_le`, `Engine.apply_of_length_ne`, `Engine.apply_of_compile_eq_error`,
  `Engine.apply_of_compile_eq_ok` — an application by the first check that fails.
* `Engine.apply_outcome` — every outcome, and when it arises.
-/

namespace PixelMath.Engine

variable {c : Config} {host : Host} {f : PixelFormat} {source : String} {pixels : Nat}
  {buffer : List Float} {p : Program}

/-! ### Buffers of a run -/

theorem length_run (hb : buffer.length % p.format.channels = 0) :
    (run c host p buffer).buffer.length = buffer.length := by
  rw [run_of_whole c host p hb]
  exact length_flatten_mapIdx_groups p.format.channels_pos buffer fun _ pixel =>
    p.length_runPixel _ pixel _

/-! ### The checks in their order -/

theorem apply_of_sizeLimit_le (h : sizeLimit ≤ pixels * f.channels) :
    apply c host f source pixels buffer =
      { outcome := .error (.sizeOverflow pixels f.channels), buffer } := by
  rw [apply, checkBuffer, if_pos h]

theorem apply_of_length_ne (hsize : pixels * f.channels < sizeLimit)
    (h : buffer.length ≠ pixels * f.channels) :
    apply c host f source pixels buffer =
      { outcome := .error (.precondition (pixels * f.channels) buffer.length), buffer } := by
  rw [apply, checkBuffer, if_neg hsize.not_ge, if_pos h]

theorem checkBuffer_eq_ok (hsize : pixels * f.channels < sizeLimit)
    (h : buffer.length = pixels * f.channels) :
    checkBuffer f.channels buffer.length pixels = .ok () := by
  rw [checkBuffer, if_neg hsize.not_ge, if_neg (not_not_intro h)]

theorem apply_of_compile_eq_error (hsize : pixels * f.channels < sizeLimit)
    (hlength : buffer.length = pixels * f.channels) {e : CompileError}
    (h : compile f source = .error e) :
    apply c host f source pixels buffer = { outcome := .error (.compile e), buffer } := by
  rw [apply, checkBuffer_eq_ok hsize hlength, h]

/-- What is reported of a program on a buffer that passed the checks. -/
def report (c : Config) (host : Host) (p : Program) (pixels : Nat) : RunStats where
  pixels := pixels
  partitions := if pixels = 0 ∨ p.isEmpty then 0 else (plan c host pixels).partitions

/-- Behind the checks a run succeeds: the buffer holds whole pixels, as many as were announced. -/
theorem apply_of_compile_eq_ok (hsize : pixels * f.channels < sizeLimit)
    (hlength : buffer.length = pixels * f.channels) (h : compile f source = .ok p) :
    apply c host f source pixels buffer =
      { outcome := .ok (report c host p pixels), buffer := (run c host p buffer).buffer } := by
  obtain ⟨-, rfl, -⟩ := compile_eq_ok_iff.mp h
  have hb : buffer.length % p.format.channels = 0 := hlength ▸ Nat.mul_mod_left _ _
  have hpixels : buffer.length / p.format.channels = pixels :=
    hlength ▸ Nat.mul_div_cancel _ p.format.channels_pos
  have hrun := run_of_whole c host p hb
  rw [hpixels] at hrun
  rw [apply, checkBuffer_eq_ok hsize hlength, h]
  change run c host p buffer = _
  rw [hrun]
  rfl

/-! ### The outcome -/

/-- The first check that fails decides an application. -/
theorem apply_cases (c : Config) (host : Host) (f : PixelFormat) (source : String) (pixels : Nat)
    (buffer : List Float) :
    (sizeLimit ≤ pixels * f.channels ∧
        apply c host f source pixels buffer =
          { outcome := .error (.sizeOverflow pixels f.channels), buffer }) ∨
      pixels * f.channels < sizeLimit ∧
        ((buffer.length ≠ pixels * f.channels ∧
            apply c host f source pixels buffer =
              { outcome := .error (.precondition (pixels * f.channels) buffer.length), buffer }) ∨
          buffer.length = pixels * f.channels ∧
            ((∃ e, compile f source = .error e ∧
                apply c host f source pixels buffer = { outcome := .error (.compile e), buffer }) ∨
              ∃ p, compile f source = .ok p ∧
                apply c host f source pixels buffer =
                  { outcome := .ok (report c host p pixels)
                    buffer := (run c host p buffer).buffer })) := by
  rcases Nat.lt_or_ge (pixels * f.channels) sizeLimit with hsize | hsize
  · refine .inr ⟨hsize, ?_⟩
    by_cases hlength : buffer.length = pixels * f.channels
    · refine .inr ⟨hlength, ?_⟩
      cases h : compile f source with
      | error e => exact .inl ⟨e, rfl, apply_of_compile_eq_error hsize hlength h⟩
      | ok p => exact .inr ⟨p, rfl, apply_of_compile_eq_ok hsize hlength h⟩
    · exact .inl ⟨hlength, apply_of_length_ne hsize hlength⟩
  · exact .inl ⟨hsize, apply_of_sizeLimit_le hsize⟩

theorem outcome_eq_sizeOverflow_iff {n k : Nat} :
    (apply c host f source pixels buffer).outcome = .error (.sizeOverflow n k) ↔
      sizeLimit ≤ pixels * f.channels ∧ n = pixels ∧ k = f.channels := by
  constructor
  · intro h
    rcases apply_cases c host f source pixels buffer with
      ⟨hsize, hr⟩ | ⟨-, ⟨-, hr⟩ | ⟨-, ⟨e, -, hr⟩ | ⟨p, -, hr⟩⟩⟩ <;> rw [hr] at h <;> cases h
    exact ⟨hsize, rfl, rfl⟩
  · rintro ⟨hsize, rfl, rfl⟩
    rw [apply_of_sizeLimit_le hsize]

theorem outcome_eq_precondition_iff {expected actual : Nat} :
    (apply c host f source pixels buffer).outcome = .error (.precondition expected actual) ↔
      pixels * f.channels < sizeLimit ∧ buffer.length ≠ pixels * f.channels ∧
        expected = pixels * f.channels ∧ actual = buffer.length := by
  constructor
  · intro h
    rcases apply_cases c host f source pixels buffer with
      ⟨-, hr⟩ | ⟨hsize, ⟨hlength, hr⟩ | ⟨-, ⟨e, -, hr⟩ | ⟨p, -, hr⟩⟩⟩ <;> rw [hr] at h <;> cases h
    exact ⟨hsize, hlength, rfl, rfl⟩
  · rintro ⟨hsize, hlength, rfl, rfl⟩
    rw [apply_of_length_ne hsize hlength]

theorem outcome_eq_compile_iff {e : CompileError} :
    (apply c host f source pixels buffer).outcome = .error (.compile e) ↔
      pixels * f.channels < sizeLimit ∧ buffer.length = pixels * f.channels ∧
        compile f source = .error e := by
  constructor
  · intro h
    rcases apply_cases c host f source pixels buffer with
      ⟨-, hr⟩ | ⟨hsize, ⟨-, hr⟩ | ⟨hlength, ⟨e, he, hr⟩ | ⟨p, -, hr⟩⟩⟩ <;> rw [hr] at h <;> cases h
    exact ⟨hsize, hlength, he⟩
  · rintro ⟨hsize, hlength, he⟩
    rw [apply_of_compile_eq_error hsize hlength he]

theorem outcome_eq_ok_iff {stats : RunStats} :
    (apply c host f source pixels buffer).outcome = .ok stats ↔
      pixels * f.channels < sizeLimit ∧ buffer.length = pixels * f.channels ∧
        ∃ p, compile f source = .ok p ∧ stats = report c host p pixels := by
  constructor
  · intro h
    rcases apply_cases c host f source pixels buffer with
      ⟨-, hr⟩ | ⟨hsize, ⟨-, hr⟩ | ⟨hlength, ⟨e, -, hr⟩ | ⟨p, hp, hr⟩⟩⟩ <;> rw [hr] at h <;> cases h
    exact ⟨hsize, hlength, p, hp, rfl⟩
  · rintro ⟨hsize, hlength, p, hp, rfl⟩
    rw [apply_of_compile_eq_ok hsize hlength hp]

/-- A buffer that is refused stays as it is. -/
theorem buffer_of_outcome_eq_error {e : EngineError}
    (h : (apply c host f source pixels buffer).outcome = .error e) :
    (apply c host f source pixels buffer).buffer = buffer := by
  rcases apply_cases c host f source pixels buffer with
    ⟨-, hr⟩ | ⟨-, ⟨-, hr⟩ | ⟨-, ⟨e, -, hr⟩ | ⟨p, -, hr⟩⟩⟩ <;> rw [hr] at h ⊢
  cases h

theorem length_apply : (apply c host f source pixels buffer).buffer.length = buffer.length := by
  rcases apply_cases c host f source pixels buffer with
    ⟨-, hr⟩ | ⟨-, ⟨-, hr⟩ | ⟨hlength, ⟨e, -, hr⟩ | ⟨p, hp, hr⟩⟩⟩ <;> rw [hr]
  obtain ⟨-, rfl, -⟩ := compile_eq_ok_iff.mp hp
  exact length_run (hlength ▸ Nat.mul_mod_left _ _)

/-- Of a buffer, the outcome sees the length alone. -/
theorem outcome_congr {buffer' : List Float} (h : buffer'.length = buffer.length) :
    (apply c host f source pixels buffer').outcome =
      (apply c host f source pixels buffer).outcome := by
  rcases apply_cases c host f source pixels buffer with
    ⟨hsize, hr⟩ | ⟨hsize, ⟨hlength, hr⟩ | ⟨hlength, ⟨e, he, hr⟩ | ⟨p, hp, hr⟩⟩⟩ <;>
    rw [hr]
  · exact outcome_eq_sizeOverflow_iff.mpr ⟨hsize, rfl, rfl⟩
  · exact outcome_eq_precondition_iff.mpr ⟨hsize, h ▸ hlength, rfl, h.symm⟩
  · exact outcome_eq_compile_iff.mpr ⟨hsize, h.trans hlength, he⟩
  · exact outcome_eq_ok_iff.mpr ⟨hsize, h.trans hlength, p, hp, rfl⟩

/-- Settings and machine show in the report alone. -/
theorem outcome_map_unit (c' : Config) (host' : Host) :
    ((apply c' host' f source pixels buffer).outcome.map fun _ => ()) =
      (apply c host f source pixels buffer).outcome.map fun _ => () := by
  rcases apply_cases c host f source pixels buffer with
    ⟨hsize, hr⟩ | ⟨hsize, ⟨hlength, hr⟩ | ⟨hlength, ⟨e, he, hr⟩ | ⟨p, hp, hr⟩⟩⟩ <;>
    rw [hr]
  · rw [apply_of_sizeLimit_le hsize]
  · rw [apply_of_length_ne hsize hlength]
  · rw [apply_of_compile_eq_error hsize hlength he]
  · rw [apply_of_compile_eq_ok hsize hlength hp]
    rfl

/-- **Every outcome of an application.** An announced size that is no size of a buffer is refused
first, then a buffer of another length, then a text that does not compile, for its tokens alone; all
else succeeds, and reports the announced pixels and the planned partitions, or none where there is
nothing to do. A buffer that is refused stays as it is, and no buffer changes its length. The
outcome sees none of the values of the buffer. An application with the default settings has the same
outcome, but for the report. -/
theorem apply_outcome (c : Config) (host : Host) (f : PixelFormat) (source : String) (pixels : Nat)
    (buffer : List Float) :
    let r := apply c host f source pixels buffer
    (∀ n k, r.outcome = .error (.sizeOverflow n k) ↔
        sizeLimit ≤ pixels * f.channels ∧ n = pixels ∧ k = f.channels) ∧
      (∀ expected actual, r.outcome = .error (.precondition expected actual) ↔
        pixels * f.channels < sizeLimit ∧ buffer.length ≠ pixels * f.channels ∧
          expected = pixels * f.channels ∧ actual = buffer.length) ∧
      (∀ e, r.outcome = .error (.compile e) ↔
        pixels * f.channels < sizeLimit ∧ buffer.length = pixels * f.channels ∧
          compile f source = .error e) ∧
      (∀ format? channels stride,
        r.outcome ≠ .error (.compile (.strideMismatch format? channels stride))) ∧
      (∀ stats, r.outcome = .ok stats ↔
        pixels * f.channels < sizeLimit ∧ buffer.length = pixels * f.channels ∧
          ∃ p, compile f source = .ok p ∧ stats.pixels = pixels ∧
            stats.partitions =
              if pixels = 0 ∨ p.isEmpty then 0 else (plan c host pixels).partitions) ∧
      (∀ e, r.outcome = .error e → r.buffer = buffer) ∧
      r.buffer.length = buffer.length ∧
      (∀ buffer' : List Float, buffer'.length = buffer.length →
        (apply c host f source pixels buffer').outcome = r.outcome) ∧
      ∀ host', (applyDefault host' f source pixels buffer).1 = r.outcome.map (fun _ => ()) ∧
        (∀ e, (applyDefault host' f source pixels buffer).1 = .error e →
          (applyDefault host' f source pixels buffer).2 = buffer) ∧
        (applyDefault host' f source pixels buffer).2.length = buffer.length := by
  refine ⟨fun n k => outcome_eq_sizeOverflow_iff,
    fun expected actual => outcome_eq_precondition_iff, fun e => outcome_eq_compile_iff,
    fun format? channels stride h => ?_, fun stats => ?_, fun e => buffer_of_outcome_eq_error,
    length_apply, fun buffer' => outcome_congr, fun host' => ⟨outcome_map_unit {} host',
      fun e he => ?_, length_apply⟩⟩
  · -- a text is refused for a token, on a line; a stride mismatch has none
    obtain ⟨-, -, he⟩ := outcome_eq_compile_iff.mp h
    obtain ⟨line, hline⟩ := exists_line_of_compile_eq_error he
    cases hline
  · obtain ⟨n, k⟩ := stats
    rw [outcome_eq_ok_iff]
    simp only [report, RunStats.mk.injEq]
  · cases h : (apply {} host' f source pixels buffer).outcome with
    | error e => exact buffer_of_outcome_eq_error h
    | ok stats => simp [applyDefault, h, Except.map] at he

end PixelMath.Engine
