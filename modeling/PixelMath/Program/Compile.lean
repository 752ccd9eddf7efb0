import PixelMath.Number.Numeral
import PixelMath.Program.Basic

/-!
# Compiling

A program text is a sequence of statements `target operator operand`, grouped by count alone, so
line breaks are cosmetic. Statements are compiled in order and the first fault is reported; no
statement is folded or moved, because later ones read what earlier ones wrote.

## Main definitions

* `Statement` — three tokens in their roles; `Statement.group` forms statements.
* `Statement.compile` — the instruction of a statement.
* `compile`, `compileStrided` — the program of a text, without and with a declared stride.
-/

namespace PixelMath

/-- A target, an operator and an operand. -/
structure Statement where
  target : Token
  operator : Token
  operand : Token
deriving DecidableEq, Repr

namespace Statement

/-- Whole statements from the front of the tokens, and the tokens left at the end. -/
def group : List Token → List Statement × List Token
  | target :: operator :: operand :: rest =>
    ({ target, operator, operand } :: (group rest).1, (group rest).2)
  | rest => ([], rest)

/-- There is a statement for every three tokens. -/
theorem length_group (ts : List Token) : (group ts).1.length = ts.length / 3 := by
  fun_induction group ts with
  | case1 target operator operand rest ih =>
    simp only [List.length_cons, ih]
    omega
  | case2 rest h =>
    match rest with
    | [] | [_] | [_, _] => simp
    | a :: b :: c :: rest => exact absurd rfl (h a b c rest)

/-- The tokens left at the end are those behind the last three times as many. -/
theorem group_rest (ts : List Token) : (group ts).2 = ts.drop (3 * (ts.length / 3)) := by
  fun_induction group ts with
  | case1 target operator operand rest ih =>
    have hlen : 3 * ((rest.length + 1 + 1 + 1) / 3) = 3 * (rest.length / 3) + 3 := by omega
    simp only [ih, List.length_cons, hlen, List.drop_succ_cons]
  | case2 rest h =>
    match rest with
    | [] | [_] | [_, _] => simp
    | a :: b :: c :: rest => exact absurd rfl (h a b c rest)

/-- Whether a token that starts with the character is taken for a number. -/
def startsNumber (c : Char) : Bool :=
  c.isDigit || c = '+' || c = '-' || c = '.'

/-- The fault of a token that is neither a symbol nor a numeral. -/
def unresolved (text : String) : TokenFault :=
  if text.toList.head?.any startsNumber then .malformedNumber else .unknownIdentifier

/-- The slot that a token names as a target. -/
def compileTarget (f : PixelFormat) (t : Token) : Except CompileError Slot := do
  match ← Symbol.resolve f t.toSite with
  | some (.slot s) => return s
  | some (.constant _) => throw (.token .notAssignable t.toSite)
  | none =>
    if (Numeral.value? t.text).isSome then throw (.token .notAssignable t.toSite)
    else throw (.token (unresolved t.text) t.toSite)

/-- The operator that a token spells. -/
def compileOperator (t : Token) : Except CompileError Operator :=
  match Operator.ofSpelling? t.text with
  | some op => .ok op
  | none => .error (.token .unknownOperator t.toSite)

/-- The operand that a token names or denotes. -/
def compileOperand (f : PixelFormat) (t : Token) : Except CompileError Operand := do
  match ← Symbol.resolve f t.toSite with
  | some (.slot s) => return .slot s
  | some (.constant c) => return .constant c
  | none =>
    match Numeral.value? t.text with
    | some x => return .literal x
    | none => throw (.token (unresolved t.text) t.toSite)

/-- The instruction of a statement; its tokens are judged in their order. -/
def compile (f : PixelFormat) (s : Statement) : Except CompileError Instruction := do
  let target ← compileTarget f s.target
  let operator ← compileOperator s.operator
  let operand ← compileOperand f s.operand
  return { target, operator, operand }

end Statement

/-- The program of a text for a format. Tokens left over after the last whole statement are
reported before any statement is looked at. -/
def compile (f : PixelFormat) (source : String) : Except CompileError Program :=
  let (statements, rest) := Statement.group (tokens source)
  match rest with
  | first :: _ => .error (.dangling (rest.map (·.text)) first.index first.line)
  | [] => do
    let instructions ← statements.mapM (Statement.compile f)
    return { format := f, instructions }

/-- Fails unless pixels of `stride` channels are pixels of the format. -/
def requireStride (f : PixelFormat) (stride : Nat) : Except CompileError Unit :=
  if stride = f.channels then .ok () else .error (.strideMismatch (some f) f.channels stride)

/-- The program of a text for a buffer with a declared number of channels per pixel. -/
def compileStrided (f : PixelFormat) (stride : Nat) (source : String) :
    Except CompileError Program := do
  requireStride f stride
  compile f source

end PixelMath
