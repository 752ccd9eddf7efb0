/-!
# Options of the command line

Arguments are words and options. Long options are written `--name`, short ones `-n` and may be run
together; a value follows an option as the next argument or, after an equals sign, in the same one.
A short option also takes the rest of its argument as its value.

## Main definitions

* `Key` — the options.
* `Setting` — an option with the value that it was given.
* `Piece` — what one argument stands for; `Piece.ofArgument?` reads it.
* `scanWords` — the options and words of the arguments of a subcommand.
* `scanGlobals` — the options before the first word.
-/

namespace PixelMath.Command

/-- The options of the command line. -/
inductive Key where
  | verbose
  | threads
  | seed
  | output
  | format
  | channels
  | expr
  | program
  | scale
  | offset
  | invert
deriving DecidableEq, Repr

namespace Key

/-- The name of the option behind two dashes. -/
def long : Key → String
  | verbose => "verbose"
  | threads => "threads"
  | seed => "seed"
  | output => "output"
  | format => "format"
  | channels => "channels"
  | expr => "expr"
  | program => "program"
  | scale => "scale"
  | offset => "offset"
  | invert => "invert"

/-- The letter of the option behind one dash, if it has one. -/
def short? : Key → Option Char
  | verbose => some 'v'
  | threads => some 'j'
  | output => some 'o'
  | format => some 'f'
  | expr => some 'e'
  | program => some 'p'
  | seed | channels | scale | offset | invert => none

/-- Whether a value belongs to the option. -/
def takesValue : Key → Bool
  | verbose | invert => false
  | _ => true

/-- The options that stand before or behind the name of any subcommand. -/
def globals : List Key := [verbose, threads, seed]

end Key

/-- An option as it was given; an option without a value has an empty text. -/
structure Setting where
  key : Key
  value : String
deriving DecidableEq, Repr

/-- What one argument stands for. -/
inductive Piece where
  /-- An argument that belongs to no option. -/
  | word (text : String)
  /-- The mark behind which every argument is a word. -/
  | terminator
  /-- Options; the last of them may still wait for its value. -/
  | options (settings : List Setting) (pending : Option Key)
deriving DecidableEq, Repr

namespace Piece

/-- The options that are run together behind one dash. -/
def ofShort? (allowed : List Key) : List Char → Option Piece
  | [] => some (.options [] none)
  | c :: cs =>
    match allowed.find? (·.short? = some c) with
    | none => none
    | some k =>
      if k.takesValue then
        match cs with
        | [] => some (.options [] (some k))
        | '=' :: value => some (.options [⟨k, String.ofList value⟩] none)
        | value => some (.options [⟨k, String.ofList value⟩] none)
      else
        match ofShort? allowed cs with
        | some (.options settings pending) => some (.options (⟨k, ""⟩ :: settings) pending)
        | _ => none

/-- The option that is written behind two dashes. -/
def ofLong? (allowed : List Key) (cs : List Char) : Option Piece :=
  match allowed.find? (·.long = String.ofList (cs.takeWhile (· ≠ '='))) with
  | none => none
  | some k =>
    match k.takesValue, cs.dropWhile (· ≠ '=') with
    | true, [] => some (.options [] (some k))
    | true, _ :: value => some (.options [⟨k, String.ofList value⟩] none)
    | false, [] => some (.options [⟨k, ""⟩] none)
    | false, _ => none

/-- What an argument stands for where the given options are allowed; none if it is an option that
is not. A single dash is a word. -/
def ofArgument? (allowed : List Key) (argument : String) : Option Piece :=
  match argument.toList with
  | ['-', '-'] => some .terminator
  | '-' :: '-' :: cs => ofLong? allowed cs
  | '-' :: c :: cs => ofShort? allowed (c :: cs)
  | _ => some (.word argument)

end Piece

/-- Whether an argument can be the value of the option before it. -/
def isValue (argument : String) : Bool :=
  argument = "-" || argument.toList.head? ≠ some '-'

/-- The settings and the words of some arguments, of which the first is the value of the pending
option. -/
def scanWords (allowed : List Key) (pending : Option Key) :
    List String → Option (List Setting × List String)
  | [] => if pending.isNone then some ([], []) else none
  | argument :: rest =>
    match pending with
    | some k =>
      if isValue argument then
        (scanWords allowed none rest).map fun (settings, words) =>
          (⟨k, argument⟩ :: settings, words)
      else none
    | none =>
      match Piece.ofArgument? allowed argument with
      | none => none
      | some .terminator => some ([], rest)
      | some (.word text) =>
        (scanWords allowed none rest).map fun (settings, words) => (settings, text :: words)
      | some (.options front pending) =>
        (scanWords allowed pending rest).map fun (settings, words) => (front ++ settings, words)

/-- The global settings before the first word, and the arguments from that word on. -/
def scanGlobals (pending : Option Key) : List String → Option (List Setting × List String)
  | [] => if pending.isNone then some ([], []) else none
  | argument :: rest =>
    match pending with
    | some k =>
      if isValue argument then
        (scanGlobals none rest).map fun (settings, words) => (⟨k, argument⟩ :: settings, words)
      else none
    | none =>
      match Piece.ofArgument? Key.globals argument with
      | none | some .terminator => none
      | some (.word _) => some ([], argument :: rest)
      | some (.options front pending) =>
        (scanGlobals pending rest).map fun (settings, words) => (front ++ settings, words)

end PixelMath.Command
