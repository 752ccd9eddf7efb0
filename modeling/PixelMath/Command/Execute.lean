import PixelMath.Command.Invocation
import PixelMath.Command.Outcome

/-!
# Commands

The four commands: running a program on a raw buffer, checking a program, showing a preset and
listing the formats.

## Main definitions

* `Job` — a program and the values it is to be run on; `Job.prepare` makes every check of `run`.
* `sizeText` — a number of bytes for display.
* `execute` — what an invocation leaves behind.
-/

namespace PixelMath.Command

/-- The format of the given name. -/
def readFormat (name : String) : Except Failure PixelFormat :=
  (PixelFormat.parse name).mapError (.invalidFormat name)

/-- The text of a program. -/
def readSource (files : Files) : ProgramSource → Except Failure String
  | .inline text => .ok text
  | .file path => (files.readText path).mapError (.unreadableProgram path)

/-- The values of a raw buffer. -/
def loadValues (files : Files) (path : String) : Except Failure (List Float) := do
  let bytes ← (files.read path).mapError (.notLoaded path)
  (RawBuffer.decode bytes.data.toList).mapError (.invalidBuffer path)

/-- The program that is checked: no buffer is declared. -/
def checkedProgram (files : Files) (format : String) (source : ProgramSource) :
    Except Failure Program := do
  let f ← readFormat format
  let text ← readSource files source
  (compile f text).mapError .notCompiled

/-- A program and the values it is to be run on. -/
structure Job where
  program : Program
  /-- The declared number of channels per pixel. -/
  stride : Nat
  values : List Float

/-- The job of a run. The program is settled before the input is looked at. -/
def Job.prepare (files : Files) (input format : String) (channels? : Option Nat)
    (source : ProgramSource) : Except Failure Job := do
  let f ← readFormat format
  let stride := channels?.getD f.channels
  let text ← readSource files source
  let program ← (compileStrided f stride text).mapError .notCompiled
  let values ← loadValues files input
  if values.length % stride ≠ 0 then throw (.raggedPixels input values.length stride)
  return { program, stride, values }

/-- The bytes of a kilobyte. -/
def kilobyte : Nat := 1024

/-- The bytes of a megabyte. -/
def megabyte : Nat := 1024 * kilobyte

/-- The bytes of a gigabyte. -/
def gigabyte : Nat := 1024 * megabyte

/-- A number of bytes in a larger unit, rounded to two places. -/
def scaledText (bytes unit : Nat) : String :=
  String.ofList (Decimal.pointed (halfEven (bytes * 100) unit) 2)

/-- A number of bytes: whole bytes below a kilobyte, two places of the largest unit above. -/
def sizeText (bytes : Nat) : String :=
  if gigabyte ≤ bytes then scaledText bytes gigabyte ++ " GB"
  else if megabyte ≤ bytes then scaledText bytes megabyte ++ " MB"
  else if kilobyte ≤ bytes then scaledText bytes kilobyte ++ " KB"
  else s!"{bytes} B"

/-- What a run announces. -/
def Job.announcement (job : Job) (input : String) : String :=
  let size := sizeText (job.values.length * 8)
  s!"Applying {job.program.length} instruction(s) to {input} ({job.program.format.name}, {size})\n"

/-- Runs a job and writes what it makes of the values. -/
def Job.finish (c : Config) (host : Host) (files : Files) (job : Job) (input output : String)
    (verbose : Bool) : Outcome :=
  let announcement := if verbose then job.announcement input else ""
  let result := Engine.runStrided c host job.program job.stride job.values
  match result.outcome with
  | .error e => .failed (.notApplied e) announcement
  | .ok _ =>
    let saving := files.save output (RawBuffer.encode result.buffer)
    match saving.error? with
    | some e => .failed (.notSaved output e) announcement saving.written?
    | none =>
      { stdout := announcement ++ if verbose then "Done.\n" else ""
        written? := saving.written? }

/-- The line that sums up a checked program. -/
def summary (p : Program) : String :=
  let random := if p.usesRandom then ", uses rand" else ""
  s!"# {p.length} instruction(s), format {p.format.name} ({p.format.channels} channels){random}\n"

/-- The preset of a name in any case. Only the chroma preset has parameters. -/
def findPreset (name : String) (scale offset : Float) (invert : Bool) : Option Preset :=
  let lower := Text.toLower name
  if lower = "filmic-chroma" then some (Preset.filmicChroma scale offset invert)
  else Preset.find? lower

/-- A text filled up with spaces on its right. -/
def padRight (width : Nat) (text : String) : String :=
  String.ofList (text.toList.rightpad width ' ')

/-- A text filled up with spaces on its left. -/
def padLeft (width : Nat) (text : String) : String :=
  String.ofList (text.toList.leftpad width ' ')

/-- A row of the table of formats. -/
def formatRow (name channels letters hostName : String) : String :=
  s!"{padRight 6 name} {padLeft 3 channels}  {padRight 10 letters} {hostName}\n"

/-- The table of formats. -/
def formatTable : String :=
  formatRow "name" "ch" "letters" "host name" ++
    String.join (PixelFormat.all.map fun f =>
      let letters := if f.isRaw then "-" else ",".intercalate (f.letters.map Char.toString)
      formatRow f.name (toString f.channels) letters (f.hostName?.getD "-")) ++
    "\nPositional names c1..c4 work in every format.\n"

/-- What an invocation leaves behind, but for the log. -/
def execute (host : Host) (files : Files) (inv : Invocation) : Outcome :=
  match inv.request with
  | .run input output format channels? source =>
    match Job.prepare files input format channels? source with
    | .error f => .failed f
    | .ok job =>
      let host := if inv.threads = 0 then host else { host with workers := inv.threads }
      job.finish { seed? := inv.seed? } host files input output (inv.verbosity ≠ 0)
  | .check format source =>
    match checkedProgram files format source with
    | .error f => .failed f
    | .ok p => { stdout := p.listing ++ summary p }
  | .preset name scale offset invert =>
    match findPreset name scale offset invert with
    | none => .failed (.unknownPreset name)
    | some p => { stdout := p.source, stderr := s!"{p.name} (format: {p.format.name})\n" }
  | .formats => { stdout := formatTable }

/-- What a command line leaves behind. -/
def executeArguments (host : Host) (files : Files) (arguments : List String) : Outcome :=
  match Invocation.ofArguments? arguments with
  | none => .usageError
  | some inv => execute host files inv

end PixelMath.Command
