import PixelMath.Command.Files
import PixelMath.Engine.Basic
import PixelMath.Preset
import PixelMath.RawBuffer

/-!
# Outcomes

What a command leaves behind, and why a command fails.

## Main definitions

* `Failure` — why a command fails; `Failure.report` is what it says about it.
* `Outcome` — exit code, output and written file of a command.
-/

namespace PixelMath.Command

/-- Why a command fails. -/
inductive Failure where
  /-- There is no format of this name. -/
  | invalidFormat (name : String) (e : FormatError)
  /-- The text of the program cannot be read. -/
  | unreadableProgram (path : String) (e : TextError)
  /-- The program does not compile. -/
  | notCompiled (e : CompileError)
  /-- The input cannot be read. -/
  | notLoaded (path : String) (e : FileError)
  /-- The input is no raw buffer. -/
  | invalidBuffer (path : String) (e : RawBuffer.Ragged)
  /-- The input does not consist of whole pixels. -/
  | raggedPixels (path : String) (values channels : Nat)
  /-- The program cannot be run on the input. -/
  | notApplied (e : EngineError)
  /-- The output cannot be written. -/
  | notSaved (path : String) (e : FileError)
  /-- There is no preset of this name. -/
  | unknownPreset (name : String)
deriving DecidableEq, Repr

namespace Failure

/-- What went wrong. -/
def context : Failure → String
  | invalidFormat name _ => s!"Invalid format '{name}' (see `pbx formats`)"
  | unreadableProgram path _ => s!"Failed to read program: {path}"
  | notCompiled _ => "Program failed to compile"
  | notLoaded path _ => s!"Failed to load: {path}"
  | invalidBuffer path _ => s!"Invalid raw buffer: {path}"
  | raggedPixels path values channels =>
    s!"{values} values in {path} do not form whole {channels}-channel pixels"
  | notApplied _ => "Failed to apply program"
  | notSaved path _ => s!"Failed to save: {path}"
  | unknownPreset name =>
    let available := ", ".intercalate Preset.names
    s!"Unknown preset: {name} (available: {available})"

/-- What it was caused by, from the nearest cause to the first. -/
def causes : Failure → List String
  | invalidFormat _ e => [e.message]
  | unreadableProgram _ e => [e.message]
  | notCompiled e => [e.message]
  | notLoaded _ e => [e.message]
  | invalidBuffer _ e => [e.message]
  | notApplied e =>
    match e with
    | .compile c => [e.message, c.message]
    | _ => [e.message]
  | notSaved _ e => [e.message]
  | raggedPixels .. | unknownPreset _ => []

/-- The text with `margin` behind every line break. -/
def indented (margin text : String) : String :=
  String.join (text.toList.map fun c => if c = '\n' then "\n" ++ margin else c.toString)

/-- The causes under a heading, indented, and numbered if there are several. -/
def causeReport : List String → String
  | [] => ""
  | [cause] => "\n\nCaused by:\n    " ++ indented "    " cause
  | causes =>
    "\n\nCaused by:" ++ String.join (causes.zipIdx.map fun (cause, i) =>
      s!"\n    {i}: " ++ indented "       " cause)

/-- What the command says about its failure. -/
def report (f : Failure) : String :=
  s!"Error: {f.context}" ++ causeReport f.causes ++ "\n"

end Failure

/-- What a command leaves behind. -/
structure Outcome where
  exitCode : Nat := 0
  stdout : String := ""
  /-- The error output. The log goes there too, at the verbosity of one and above or where the
  environment asks for it; its lines hold times and are left out. -/
  stderr : String := ""
  /-- The path that was written to and the bytes that were taken there, if a file was opened for
  writing. -/
  written? : Option (String × ByteArray) := none

namespace Outcome

/-- A command that fails after it has put out a text and perhaps written to a file. -/
def failed (f : Failure) (stdout : String := "")
    (written? : Option (String × ByteArray) := none) : Outcome :=
  { exitCode := 1, stdout, stderr := f.report, written? }

/-- A command line that is malformed. -/
def usageError : Outcome :=
  { exitCode := 2, stderr := "usage: pbx [-v] [-j N] [--seed N] run|check|preset|formats ...\n" }

end Outcome

end PixelMath.Command
