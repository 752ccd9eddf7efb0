import PixelMath.Command.Options
import PixelMath.Number.Numeral

/-!
# Invocations

What a command line asks for.

## Main definitions

* `Request` — a subcommand with its arguments.
* `Invocation` — a request and the settings that every subcommand shares.
* `Invocation.ofArguments?` — the invocation that some arguments stand for.
-/

namespace PixelMath.Command

/-- Where the text of a program comes from. -/
inductive ProgramSource where
  /-- The text itself. -/
  | inline (text : String)
  /-- A file that holds the text. -/
  | file (path : String)
deriving DecidableEq, Repr

/-- A subcommand with its arguments. -/
inductive Request where
  /-- Run a program on a raw buffer. -/
  | run (input output format : String) (channels? : Option Nat) (source : ProgramSource)
  /-- Compile a program and list it. -/
  | check (format : String) (source : ProgramSource)
  /-- Show a preset. -/
  | preset (name : String) (scale offset : Float) (invert : Bool)
  /-- List the formats. -/
  | formats
deriving DecidableEq, Repr

/-- What a command line asks for. -/
structure Invocation where
  verbosity : Nat
  /-- The number of workers, zero for every worker of the machine. -/
  threads : Nat
  seed? : Option UInt64
  request : Request
deriving DecidableEq, Repr

/-- A whole number below `limit`, in digits and perhaps with a plus sign. -/
def natural? (limit : Nat) (text : String) : Option Nat :=
  let ds := match text.toList with
    | '+' :: cs => cs
    | cs => cs
  if ds ≠ [] ∧ ds.all Char.isDigit ∧ Numeral.ofDigits ds < limit then some (Numeral.ofDigits ds)
  else none

/-- A word of 64 bits, in digits. -/
def word64? (text : String) : Option Nat :=
  natural? UInt64.size text

/-- A double: a numeral or the name of a special value, in any case. -/
def real? (text : String) : Option Float :=
  match Numeral.value? text with
  | some x => some x
  | none =>
    let (negative, cs) := Numeral.sign text.toList
    match String.ofList (cs.map Char.toLower) with
    | "inf" | "infinity" => some (if negative then -1 / 0 else 1 / 0)
    | "nan" => some (0 / 0)
    | _ => none

/-- A path, which is not empty. -/
def path? (text : String) : Option String :=
  if text.isEmpty then none else some text

namespace Setting

/-- The values given to an option. -/
def values (settings : List Setting) (k : Key) : List String :=
  (settings.filter (·.key = k)).map Setting.value

/-- The value of an option as `read` understands it, or `default` where the option is absent. An
option given twice, or with a value that cannot be read, is refused. -/
def get? {α : Type} (settings : List Setting) (k : Key) (read : String → Option α) (default : α) :
    Option α :=
  match values settings k with
  | [] => some default
  | [value] => read value
  | _ => none

/-- The value of an option that may be absent. -/
def find? {α : Type} (settings : List Setting) (k : Key) (read : String → Option α) :
    Option (Option α) :=
  get? settings k (fun value => (read value).map some) none

/-- The text or the file that a program comes from; exactly one of them has to be given. -/
def source? (settings : List Setting) : Option ProgramSource := do
  let text? ← find? settings .expr some
  let file? ← find? settings .program path?
  match text?, file? with
  | some text, none => return .inline text
  | none, some path => return .file path
  | _, _ => none

end Setting

namespace Request

/-- The names of the subcommands and the options that each of them takes. -/
def keys? : String → Option (List Key)
  | "run" | "r" => some [.output, .format, .channels, .expr, .program]
  | "check" | "c" => some [.format, .expr, .program]
  | "preset" => some [.scale, .offset, .invert]
  | "formats" => some []
  | _ => none

/-- The request of a subcommand with the given settings and words. -/
def of? (name : String) (settings : List Setting) (words : List String) : Option Request :=
  match name, words with
  | "run", [input] | "r", [input] => do
    let input ← path? input
    let output ← (← Setting.find? settings .output path?)
    let format ← Setting.get? settings .format some "rgba"
    let channels? ← Setting.find? settings .channels word64?
    return .run input output format channels? (← Setting.source? settings)
  | "check", [] | "c", [] => do
    let format ← Setting.get? settings .format some "rgba"
    return .check format (← Setting.source? settings)
  | "preset", [name] => do
    let scale ← Setting.get? settings .scale real? 1
    let offset ← Setting.get? settings .offset real? 0.25
    let invert ← Setting.get? settings .invert (fun _ => some true) false
    return .preset name scale offset invert
  | "formats", [] => some .formats
  | _, _ => none

end Request

namespace Invocation

/-- The invocation that some arguments stand for; none if they are malformed. A global setting
behind the subcommand takes the place of one before it. -/
def ofArguments? (arguments : List String) : Option Invocation := do
  let (outer, rest) ← scanGlobals none arguments
  match rest with
  | [] => none
  | name :: rest =>
    let keys ← Request.keys? name
    let (inner, words) ← scanWords (keys ++ Key.globals) none rest
    let request ← Request.of? name inner words
    let outerThreads ← Setting.get? outer .threads word64? 0
    let threads ← Setting.get? inner .threads word64? outerThreads
    let outerSeed ← Setting.find? outer .seed word64?
    let seed ← Setting.get? inner .seed (fun value => (word64? value).map some) outerSeed
    let count := fun settings => (Setting.values settings .verbose).length
    return {
      verbosity := if count inner = 0 then count outer else count inner
      threads
      seed? := seed.map UInt64.ofNat
      request }

end Invocation

end PixelMath.Command
