import PixelMath.Format
import PixelMath.Text.Quoted
import PixelMath.Token

/-!
# Compile errors

What can be wrong with a program text or with its relation to a pixel format.

## Main definitions

* `TokenFault` — what is wrong with a single token.
* `CompileError` — why a program does not compile; `CompileError.message` is its text.
* `FormatError.toCompileError` — a format error seen as a compile error.
-/

namespace PixelMath

/-- What is wrong with a token. -/
inductive TokenFault where
  /-- It names no channel, variable or constant. -/
  | unknownIdentifier
  /-- It starts like a number and is none. -/
  | malformedNumber
  /-- It is no spelling of an operator. -/
  | unknownOperator
  /-- It stands as a target and is a constant or a number. -/
  | notAssignable
  /-- It is the positional name of a channel that a format with `channels` channels lacks. -/
  | channelOutOfRange (channels : Nat)
deriving DecidableEq, Repr

/-- Why a program does not compile. -/
inductive CompileError where
  /-- The last tokens do not form a whole statement; the first of them has the given index and
  line. -/
  | dangling (texts : List String) (index line : Nat)
  /-- A token is at fault. -/
  | token (fault : TokenFault) (site : Site)
  /-- The buffer has `stride` channels per pixel where the format, if it is known, has
  `channels`. -/
  | strideMismatch (format? : Option PixelFormat) (channels stride : Nat)
  /-- No format has this name. -/
  | unknownFormat (name : String)
deriving DecidableEq, Repr

namespace CompileError

/-- The line of the token that the error points at, if it points at one. -/
def line? : CompileError → Option Nat
  | dangling _ _ line => some line
  | token _ site => some site.line
  | strideMismatch .. | unknownFormat _ => none

/-- The name of a format that may be unknown. -/
def formatName (format? : Option PixelFormat) : String :=
  (format?.map PixelFormat.name).getD ""

/-- The text of the error. -/
def message : CompileError → String
  | dangling texts _ line =>
    s!"line {line}: incomplete statement, dangling tokens {Text.quotedList texts}"
  | token .unknownIdentifier site =>
    s!"line {site.line}: unknown identifier '{site.text}' (token {site.index})"
  | token .malformedNumber site =>
    s!"line {site.line}: malformed number '{site.text}' (token {site.index})"
  | token .unknownOperator site =>
    s!"line {site.line}: unknown operator '{site.text}' (token {site.index})"
  | token .notAssignable site =>
    s!"line {site.line}: cannot assign to '{site.text}' (token {site.index})"
  | token (.channelOutOfRange channels) site =>
    s!"line {site.line}: channel '{site.text}' does not exist in a {channels}-channel format"
  | strideMismatch format? channels stride =>
    s!"format '{formatName format?}' has {channels} channels but buffer stride is {stride}"
  | unknownFormat name => s!"unknown pixel format '{name}'"

end CompileError

/-- A format error seen as a compile error. -/
def FormatError.toCompileError : FormatError → CompileError
  | unsupported name => .unknownFormat name
  | channelMismatch expected got => .strideMismatch none expected got

end PixelMath
