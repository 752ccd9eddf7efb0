import PixelMath.Proofs.Command.Run
import PixelMath.Proofs.Program.Listing

/-!
# A check tells how a run ends

A check settles a program as a run does, but for the channels that a run may be given, and stops
where the run looks at its input. So a program that is refused is refused by the run with the same
words, whatever the input is; and a program that passes is the one that the run carries out, so the
run can only fail for its files.

What a check says of a program is one line for each instruction and one that sums them up.

## Main definitions

* `CheckArguments` — the arguments of a check.
* `RunArguments.Follows` — the run is of the program that was checked.
* `RunArguments.Ready` — the input and the output of a run are in order.

## Main results

* `Job.prepare_of_follows` — the job of a run, from the program of a check.
* `checkedProgram_eq_ok_iff` — the programs that pass.
* `execute_check` — how a check tells the outcome of a run.
-/

namespace PixelMath.Command

/-- The arguments of a check. -/
structure CheckArguments where
  /-- The name of the format. -/
  format : String
  source : ProgramSource

/-- The request to check a program. -/
def CheckArguments.request (k : CheckArguments) : Request :=
  .check k.format k.source

namespace RunArguments

/-- The run is of the program that was checked: it has the same format and the same source, and
finds under its path what the check found; if it is given channels, they are those of the format.
Everything else may be different, such as the other files. -/
structure Follows (a : RunArguments) (files' : Files) (k : CheckArguments) (files : Files) :
    Prop where
  format : a.format = k.format
  source : a.source = k.source
  channels : ∀ n ∈ a.channels?, ∀ f, PixelFormat.parse k.format = .ok f → n = f.channels
  program : ∀ path, k.source = .file path → files'.read path = files.read path

/-- The files of the run are in order: its input is there, and consists of whole pixels of the
format, if there is such a format; as many bytes can be written to its output. -/
structure Ready (a : RunArguments) (files : Files) : Prop where
  input : ∃ bytes, files.read a.input = .ok bytes ∧
    ∀ f, PixelFormat.parse a.format = .ok f → bytes.size % (8 * f.channels) = 0
  output : ∀ bytes, files.read a.input = .ok bytes → files.refusal? a.output bytes.size = none

end RunArguments

/-! ### The program of a check -/

section Program

variable {files files' : Files} {a : RunArguments} {k : CheckArguments} {p : Program}

/-- A source reads the same wherever the file that it names is the same. -/
theorem readSource_congr {source : ProgramSource}
    (h : ∀ path, source = .file path → files'.read path = files.read path) :
    readSource files' source = readSource files source := by
  cases source with
  | inline text => rfl
  | file path => rw [readSource, readSource, Files.readText, Files.readText, h path rfl]

theorem checkedProgram_eq_ok_iff {format : String} {source : ProgramSource} :
    checkedProgram files format source = .ok p ↔ PixelFormat.parse format = .ok p.format ∧
      ∃ text, source.Holds files text ∧ compile p.format text = .ok p := by
  simp only [checkedProgram, bind_eq_ok_iff, readFormat_eq_ok_iff, readSource_eq_ok_iff,
    mapError_eq_ok_iff]
  constructor
  · rintro ⟨f, hf, text, ht, hp⟩
    obtain ⟨-, rfl, -⟩ := compile_eq_ok_iff.mp hp
    exact ⟨hf, text, ht, hp⟩
  · rintro ⟨hf, text, ht, hp⟩
    exact ⟨_, hf, text, ht, hp⟩

/-- **The job of a run, from the program of a check.** The run settles the program that was checked,
or fails where the check did, and then looks at its input. -/
theorem Job.prepare_of_follows (h : a.Follows files' k files) :
    prepare files' a.input a.format a.channels? a.source =
      (checkedProgram files k.format k.source >>= fun p =>
        loadValues files' a.input >>= fun values =>
        if values.length % p.format.channels ≠ 0 then
          throw (.raggedPixels a.input values.length p.format.channels)
        else return { program := p, stride := p.format.channels, values }) := by
  rw [prepare, checkedProgram, h.format, h.source, readSource_congr h.program]
  cases hf : readFormat k.format with
  | error e => rfl
  | ok f =>
    have hstride : a.channels?.getD f.channels = f.channels :=
      getD_channels_eq_iff.mpr fun n hn => h.channels n hn f (readFormat_eq_ok_iff.mp hf)
    cases ht : readSource files k.source with
    | error e => rfl
    | ok text =>
      simp only [ok_bind, hstride]
      have hcompile : compileStrided f f.channels text = compile f text := by
        rw [compileStrided, requireStride_eq_ok_iff (u := ()) |>.mpr rfl, ok_bind]
      rw [hcompile]
      cases hp : compile f text with
      | error e => rfl
      | ok p =>
        obtain ⟨-, rfl, -⟩ := compile_eq_ok_iff.mp hp
        rfl

end Program

/-! ### The outcome of a check -/

section Outcome

variable {files files' : Files} {a : RunArguments} {k : CheckArguments} {check run : Invocation}
  (host host' : Host)

theorem execute_check_of_error (hcheck : check.request = k.request) {failure : Failure}
    (h : checkedProgram files k.format k.source = .error failure) :
    execute host files check = .failed failure := by
  rw [execute, hcheck, CheckArguments.request]
  dsimp only
  rw [h]

theorem execute_check_of_ok (hcheck : check.request = k.request) {p : Program}
    (h : checkedProgram files k.format k.source = .ok p) :
    execute host files check = { stdout := p.listing ++ summary p } := by
  rw [execute, hcheck, CheckArguments.request]
  dsimp only
  rw [h]

/-- A run of a program that is refused by the check is refused with the same words. -/
theorem execute_run_of_error (hrun : run.request = a.request) (ha : a.Follows files' k files)
    {failure : Failure} (h : checkedProgram files k.format k.source = .error failure) :
    execute host' files' run = .failed failure := by
  rw [execute, hrun, RunArguments.request]
  dsimp only
  rw [Job.prepare_of_follows ha, h]
  rfl

/-- What passes the check is the program of the run. -/
theorem RunArguments.Follows.settles (ha : a.Follows files' k files) {p : Program}
    (h : checkedProgram files k.format k.source = .ok p) : a.Settles files' p := by
  obtain ⟨hf, text, ht, hp⟩ := checkedProgram_eq_ok_iff.mp h
  have htext : readSource files' a.source = .ok text := by
    rw [ha.source, readSource_congr ha.program]
    exact readSource_eq_ok_iff.mpr ht
  exact
    { format := ha.format ▸ hf
      channels := fun n hn => ha.channels n hn _ hf
      compiles := ⟨text, readSource_eq_ok_iff.mp htext, hp⟩ }

theorem RunArguments.Follows.program_eq (ha : a.Follows files' k files) {p : Program}
    (h : checkedProgram files k.format k.source = .ok p) {job : Job}
    (hjob : Job.prepare files' a.input a.format a.channels? a.source = .ok job) :
    job.program = p := by
  rw [Job.prepare_of_follows ha, h, ok_bind] at hjob
  obtain ⟨values, -, hjob⟩ := bind_eq_ok_iff.mp hjob
  split at hjob <;> cases hjob
  rfl

/-- A run of a program that passes can be carried out when its files are in order. -/
theorem RunArguments.Ready.accepts (hready : a.Ready files') (ha : a.Follows files' k files)
    {p : Program} (h : checkedProgram files k.format k.source = .ok p) {bytes : ByteArray}
    (hbytes : files'.read a.input = .ok bytes) : a.Accepts files' p bytes := by
  have hsettles : a.Settles files' p := ha.settles h
  obtain ⟨bytes', hread, hwhole⟩ := hready.input
  obtain rfl : bytes' = bytes := Except.ok.inj (hread.symm.trans hbytes)
  exact
    { hsettles with
      read := hread
      whole := hwhole _ hsettles.format
      writable := hready.output _ hbytes }

/-- Such a run writes what the program makes of its input. -/
theorem execute_run_of_ready (hrun : run.request = a.request) (ha : a.Follows files' k files)
    (hready : a.Ready files') {p : Program}
    (h : checkedProgram files k.format k.source = .ok p) :
    (execute host' files' run).exitCode = 0 ∧
      ∃ bytes values, files'.read a.input = .ok bytes ∧
        RawBuffer.decode bytes.data.toList = .ok values ∧
        (execute host' files' run).written? = some (a.output, ⟨(RawBuffer.encode
          (Engine.run { seed? := run.seed? } (withThreads host' run.threads) p
            values).buffer).toArray⟩) := by
  obtain ⟨verbosity, threads, seed?, request⟩ := run
  obtain rfl : request = a.request := hrun
  obtain ⟨bytes, hread, -⟩ := hready.input
  have haccepts : a.Accepts files' p bytes := hready.accepts ha h hread
  obtain ⟨values, hv⟩ := haccepts.exists_decode
  obtain ⟨hzero, -, hwritten⟩ := execute_of_accepts host' verbosity threads seed? haccepts hv
  refine ⟨hzero, bytes, values, hread, hv, ?_⟩
  rw [hwritten, Engine.run_of_whole _ _ p (haccepts.length_mod hv)]

/-- Some run of the program has its files in order: one with an empty input beside the program. -/
theorem exists_follows_ready (k : CheckArguments) (files : Files) :
    ∃ (a : RunArguments) (files' : Files), a.Follows files' k files ∧ a.Ready files' := by
  obtain ⟨input, hinput⟩ : ∃ input, ∀ path, k.source = .file path → path ≠ input := by
    cases k.source with
    | inline text => exact ⟨"", fun _ h => nomatch h⟩
    | file path =>
      refine ⟨path ++ "x", fun path' h heq => ?_⟩
      cases h
      have hlength := congrArg String.length heq
      simp at hlength
  refine ⟨⟨input, input, k.format, none, k.source⟩,
    { read := fun path => if path = input then .ok ByteArray.empty else files.read path
      create := fun _ => .ok .unlimited },
    { format := rfl
      source := rfl
      channels := fun _ h => nomatch h
      program := fun path h => if_neg (hinput path h) },
    { input := ⟨ByteArray.empty, if_pos rfl, fun f _ => Nat.zero_mod _⟩
      output := fun _ _ => rfl }⟩

end Outcome

/-! ### The lines of a check -/

/-- The last line of a check. -/
def summaryLine (p : Program) : String :=
  "# " ++ toString p.length ++ " instruction(s), format " ++ p.format.name ++ " (" ++
    toString p.format.channels ++ " channels)" ++ if p.usesRandom then ", uses rand" else ""

theorem summary_eq (p : Program) : summary p = summaryLine p ++ "\n" := rfl

/-- A check puts out a line for each instruction, and one that sums them up. -/
theorem listing_append_summary (p : Program) :
    p.listing ++ summary p =
      String.join ((p.instructions.map Instruction.text ++ [summaryLine p]).map (· ++ "\n")) := by
  refine String.toList_injective ?_
  simp only [Program.listing, summary_eq, String.toList_append, String.toList_join,
    List.map_append, List.flatMap_append, List.map_map, List.map_cons, List.map_nil,
    List.flatMap_cons, List.flatMap_nil, List.append_nil]
  rfl

theorem not_mem_of_plainWord {text : String} (h : PlainWord text) : '\n' ∉ text.toList :=
  fun hc => absurd (h.plain _ hc) (by decide)

theorem not_mem_toDigits (n : Nat) : '\n' ∉ Nat.toDigits 10 n :=
  fun h => absurd (Nat.isDigit_of_mem_toDigits (by decide) (by decide) h) (by decide)

theorem not_mem_text {i : Instruction} (hi : ∀ x, i.operand = .literal x → x.isNaN = false) :
    '\n' ∉ i.text.toList := by
  have htarget := not_mem_of_plainWord (.slot_name i.target)
  have hoperator := not_mem_of_plainWord (.operator_name i.operator)
  have hoperand := not_mem_of_plainWord (.operand_text hi)
  simp [Instruction.toList_text, htarget, hoperator, hoperand]

theorem not_mem_summaryLine (p : Program) : '\n' ∉ (summaryLine p).toList := by
  have hcount := not_mem_toDigits p.length
  have hchannels := not_mem_toDigits p.format.channels
  have hname : '\n' ∉ p.format.name.toList := by cases p.format <;> decide
  have hrandom : '\n' ∉ (if p.usesRandom then ", uses rand" else "").toList := by
    split <;> decide
  simp [summaryLine, hcount, hchannels, hname, hrandom]

/-- The texts that are put out are lines. -/
theorem not_mem_of_mem_lines {p : Program} {f : PixelFormat} {text : String}
    (hp : compile f text = .ok p) {line : String}
    (hline : line ∈ p.instructions.map Instruction.text ++ [summaryLine p]) :
    '\n' ∉ line.toList := by
  rcases List.mem_append.mp hline with h | h
  · obtain ⟨i, hi, rfl⟩ := List.mem_map.mp h
    exact not_mem_text fun x hx => isNaN_of_compile hp hi hx
  · rw [List.mem_singleton.mp h]
    exact not_mem_summaryLine p

/-! ### A check and the runs that follow it -/

/-- **A check tells how a run ends.** A check succeeds if and only if every run of the same program
in the same format, without channels or with those of the format, succeeds on files that are in
order. When it fails, every such run fails, whatever its input is, with the same words on its error
output, the log left aside, and without writing a file. When it succeeds, there is a program that
each such run carries out: it is the program of its job, and where the files are in order, what the
run writes is what the program makes of the doubles of the input. The check puts out one line for
each instruction of this program, in their order, and one that sums them up with their number. -/
theorem execute_check (host : Host) (files : Files) (k : CheckArguments) (check : Invocation)
    (hcheck : check.request = k.request) :
    let o := execute host files check
    (o.exitCode = 0 ↔ ∀ (host' : Host) (files' : Files) (a : RunArguments) (run : Invocation),
        run.request = a.request → a.Follows files' k files → a.Ready files' →
          (execute host' files' run).exitCode = 0) ∧
      (o.exitCode ≠ 0 → ∀ (host' : Host) (files' : Files) (a : RunArguments) (run : Invocation),
        run.request = a.request → a.Follows files' k files →
          (execute host' files' run).exitCode ≠ 0 ∧
            (execute host' files' run).stderr = o.stderr ∧
            (execute host' files' run).written? = none) ∧
      (o.exitCode = 0 → ∃ p : Program,
        let lines := p.instructions.map Instruction.text ++
          ["# " ++ toString p.instructions.length ++ " instruction(s), format " ++
            p.format.name ++ " (" ++ toString p.format.channels ++ " channels)" ++
              if p.usesRandom then ", uses rand" else ""]
        o.stdout = String.join (lines.map (· ++ "\n")) ∧ (∀ line ∈ lines, '\n' ∉ line.toList) ∧
        ∀ (host' : Host) (files' : Files) (a : RunArguments) (run : Invocation),
          run.request = a.request → a.Follows files' k files →
            (∀ job, Job.prepare files' a.input a.format a.channels? a.source = .ok job →
              job.program = p) ∧
            (a.Ready files' → ∃ bytes values, files'.read a.input = .ok bytes ∧
              RawBuffer.decode bytes.data.toList = .ok values ∧
              (execute host' files' run).written? = some (a.output, ⟨(RawBuffer.encode
                (Engine.run { seed? := run.seed? } (withThreads host' run.threads) p
                  values).buffer).toArray⟩))) := by
  intro o
  cases h : checkedProgram files k.format k.source with
  | error failure =>
    have ho : o = .failed failure := execute_check_of_error host hcheck h
    have hcode : o.exitCode ≠ 0 := by
      rw [ho]
      exact Nat.one_ne_zero
    have hfails (host' : Host) (files' : Files) (a : RunArguments) (run : Invocation)
        (hrun : run.request = a.request) (ha : a.Follows files' k files) :
        execute host' files' run = .failed failure := execute_run_of_error host' hrun ha h
    refine ⟨iff_of_false hcode fun hall => ?_, fun _ host' files' a run hrun ha => ?_,
      fun hzero => absurd hzero hcode⟩
    · obtain ⟨a, files', ha, hready⟩ := exists_follows_ready k files
      have hzero := hall host files' a ⟨0, 0, none, a.request⟩ rfl ha hready
      rw [hfails host files' a ⟨0, 0, none, a.request⟩ rfl ha] at hzero
      exact Nat.one_ne_zero hzero
    · rw [hfails host' files' a run hrun ha, ho]
      exact ⟨Nat.one_ne_zero, rfl, rfl⟩
  | ok p =>
    have ho : o = { stdout := p.listing ++ summary p } := execute_check_of_ok host hcheck h
    have hcode : o.exitCode = 0 := by rw [ho]
    obtain ⟨hformat, text, ht, hp⟩ := checkedProgram_eq_ok_iff.mp h
    refine ⟨iff_of_true hcode fun host' files' a run hrun ha hready =>
        (execute_run_of_ready host' hrun ha hready h).1, fun hne => absurd hcode hne, fun _ => ?_⟩
    refine ⟨p, ?_, fun line hline => not_mem_of_mem_lines hp hline,
      fun host' files' a run hrun ha => ⟨fun job hjob => ha.program_eq h hjob, fun hready =>
        (execute_run_of_ready host' hrun ha hready h).2⟩⟩
    rw [ho]
    exact listing_append_summary p

/-- A program in a file passes the check, and clears the green of the pixel that a run of it finds
beside it. Another one names a channel that its format lacks; its check and its run, of an input
that is missing, end alike. -/
theorem execute_check_rgb :
    let files : Files :=
      { read := fun path =>
          if path = "program" then .ok "G = 0".toUTF8
          else if path = "in" then .ok ⟨(RawBuffer.encode [1, 2, 3]).toArray⟩
          else .error .notFound
        create := fun _ => .ok .unlimited }
    let check (source : ProgramSource) : Outcome :=
      execute {} files ⟨0, 0, none, .check "rgb" source⟩
    let run (input : String) (source : ProgramSource) : Outcome :=
      execute {} files ⟨1, 2, none, .run input "out" "rgb" (some 3) source⟩
    (check (.file "program")).exitCode = 0 ∧ (run "in" (.file "program")).exitCode = 0 ∧
      (check (.inline "c4 = 0")).exitCode ≠ 0 ∧
      (run "missing" (.inline "c4 = 0")).stderr = (check (.inline "c4 = 0")).stderr ∧
      (run "missing" (.inline "c4 = 0")).written? = none := by
  intro files check run
  have hfile : checkedProgram files "rgb" (.file "program") =
      .ok ⟨.rgb, [⟨.channel 1, .set, .literal 0⟩]⟩ :=
    checkedProgram_eq_ok_iff.mpr ⟨by decide +kernel, _, .file rfl, by decide +kernel⟩
  have hinline : checkedProgram files "rgb" (.inline "c4 = 0") =
      .error (.notCompiled (.token (.channelOutOfRange 3) ⟨"c4", 0, 1⟩)) := by
    decide +kernel
  have hzero : (check (.file "program")).exitCode = 0 := by
    rw [show check (.file "program") = _ from
      execute_check_of_ok {} (k := ⟨"rgb", .file "program"⟩) rfl hfile]
  have hne : (check (.inline "c4 = 0")).exitCode ≠ 0 := by
    rw [show check (.inline "c4 = 0") = _ from
      execute_check_of_error {} (k := ⟨"rgb", .inline "c4 = 0"⟩) rfl hinline]
    exact Nat.one_ne_zero
  have hchannels (n : Nat) (hn : n ∈ some 3) (f : PixelFormat)
      (hf : PixelFormat.parse "rgb" = .ok f) : n = f.channels := by
    have hrgb : PixelFormat.parse "rgb" = .ok .rgb := by decide +kernel
    obtain rfl := Except.ok.inj (hrgb.symm.trans hf)
    exact (Option.some.inj hn).symm
  have hgood := execute_check {} files ⟨"rgb", .file "program"⟩
    ⟨0, 0, none, .check "rgb" (.file "program")⟩ rfl
  have hbad := execute_check {} files ⟨"rgb", .inline "c4 = 0"⟩
    ⟨0, 0, none, .check "rgb" (.inline "c4 = 0")⟩ rfl
  refine ⟨hzero, ?_, hne, ?_⟩
  · refine hgood.1.mp hzero {} files ⟨"in", "out", "rgb", some 3, .file "program"⟩
      ⟨1, 2, none, _⟩ rfl
      ⟨rfl, rfl, hchannels, fun _ _ => rfl⟩ ⟨⟨_, rfl, fun f hf => ?_⟩, fun _ _ => rfl⟩
    rw [← hchannels 3 rfl f hf]
    decide +kernel
  · exact (hbad.2.1 hne {} files ⟨"missing", "out", "rgb", some 3, .inline "c4 = 0"⟩
      ⟨1, 2, none, _⟩ rfl
      ⟨rfl, rfl, hchannels, fun _ _ => rfl⟩).2

end PixelMath.Command
