import PixelMath.Number.Shortest
import PixelMath.Operator.Basic
import PixelMath.Symbol

/-!
# Programs

A compiled program is a list of instructions bound to a pixel format. Its listing is program text
again, one instruction per line and in one spelling.

## Main definitions

* `Operand`, `Instruction`, `Program`.
* `Program.usesRandom` — whether an instruction reads `rand`.
* `Program.listing` — the text of a program.
-/

namespace PixelMath

/-- Where an instruction reads its second value. -/
inductive Operand where
  /-- A channel or a variable. -/
  | slot (s : Slot)
  /-- A number. -/
  | literal (x : Float)
  /-- A named value. -/
  | constant (c : Constant)
deriving DecidableEq, Repr

namespace Operand

/-- Whether the operand is a random sample. -/
def isRandom : Operand → Bool
  | constant .rand => true
  | _ => false

/-- Whether a pixel with the given number of channels has the operand. -/
def Fits (channels : Nat) : Operand → Prop
  | slot s => s.Fits channels
  | literal _ | constant _ => True

/-- The text of the operand. -/
def text : Operand → String
  | slot s => s.name
  | literal x => floatText x
  | constant c => c.name

end Operand

/-- A compiled statement. -/
structure Instruction where
  /-- The slot that receives the result. -/
  target : Slot
  operator : Operator
  operand : Operand
deriving DecidableEq, Repr

namespace Instruction

/-- Whether a pixel with the given number of channels has every slot of the instruction. -/
def Fits (channels : Nat) (i : Instruction) : Prop :=
  i.target.Fits channels ∧ i.operand.Fits channels

/-- The text of the instruction. -/
def text (i : Instruction) : String :=
  s!"{i.target.name} {i.operator.name} {i.operand.text}"

end Instruction

/-- Instructions for the pixels of a format, in the order in which they are carried out. -/
structure Program where
  format : PixelFormat
  instructions : List Instruction
deriving DecidableEq, Repr

namespace Program

/-- The number of instructions. -/
def length (p : Program) : Nat :=
  p.instructions.length

/-- Whether the program does nothing. -/
def isEmpty (p : Program) : Bool :=
  p.instructions.isEmpty

/-- Whether an instruction reads a random sample. -/
def usesRandom (p : Program) : Bool :=
  p.instructions.any (·.operand.isRandom)

/-- The text of the program, one instruction per line. -/
def listing (p : Program) : String :=
  String.join (p.instructions.map fun i => i.text ++ "\n")

end Program

end PixelMath
