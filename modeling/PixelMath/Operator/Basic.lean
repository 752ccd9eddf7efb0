import PixelMath.Operator.Arithmetic

/-!
# Operators

An operator combines the value of a target with that of an operand. Every accepted spelling stands
for one operator, and every operator has one spelling under which it is listed.

## Main definitions

* `Operator` — the operators; `Operator.Shape`: what part the target's value takes.
* `Operator.spellings`, `Operator.ofSpelling?` — the spellings and their look-up.
* `Operator.apply` — the value an operator gives.
-/

namespace PixelMath

/-- The operators of a statement. -/
inductive Operator where
  | set
  | add
  | sub
  | mul
  | div
  | mod
  | pow
  | min
  | max
  | atan2
  | abs
  | acos
  | acosh
  | asin
  | asinh
  | atan
  | atanh
  | cbrt
  | ceil
  | cos
  | cosh
  | floor
  | log
  | round
  | sin
  | sinh
  | sqrt
  | tan
  | tanh
deriving DecidableEq, Repr, Inhabited

namespace Operator

/-- What part the target's value takes. -/
inductive Shape where
  /-- The operand becomes the target's value. -/
  | assign
  /-- Target and operand are combined. -/
  | compound
  /-- A function of the operand becomes the target's value. -/
  | unary
deriving DecidableEq, Repr

/-- The shape of the operator. -/
def shape : Operator → Shape
  | set => .assign
  | add | sub | mul | div | mod | pow | min | max | atan2 => .compound
  | _ => .unary

/-- The spelling under which the operator is listed. -/
def name : Operator → String
  | set => "="
  | add => "+"
  | sub => "-"
  | mul => "*"
  | div => "/"
  | mod => "%"
  | pow => "pow"
  | min => "min"
  | max => "max"
  | atan2 => "atan2"
  | abs => "abs"
  | acos => "acos"
  | acosh => "acosh"
  | asin => "asin"
  | asinh => "asinh"
  | atan => "atan"
  | atanh => "atanh"
  | cbrt => "cbrt"
  | ceil => "ceil"
  | cos => "cos"
  | cosh => "cosh"
  | floor => "floor"
  | log => "log"
  | round => "round"
  | sin => "sin"
  | sinh => "sinh"
  | sqrt => "sqrt"
  | tan => "tan"
  | tanh => "tanh"

/-- Every accepted spelling with its operator. -/
def spellings : List (String × Operator) :=
  [("=", set), ("set", set),
   ("+", add), ("+=", add), ("add", add),
   ("-", sub), ("-=", sub), ("sub", sub),
   ("*", mul), ("*=", mul), ("mul", mul),
   ("/", div), ("/=", div), ("div", div),
   ("%", mod), ("%=", mod), ("mod", mod),
   ("**", pow), ("^", pow), ("^=", pow), ("pow", pow),
   ("min", min), ("max", max), ("atan2", atan2),
   ("abs", abs),
   ("acos", acos), ("acosh", acosh), ("asin", asin), ("asinh", asinh),
   ("atan", atan), ("atanh", atanh),
   ("cbrt", cbrt),
   ("ceil", ceil), ("cil", ceil),
   ("cos", cos), ("cosh", cosh),
   ("floor", floor), ("flr", floor),
   ("log", log),
   ("round", round), ("rnd", round),
   ("sin", sin), ("sinh", sinh),
   ("sqrt", sqrt), ("sqr", sqrt),
   ("tan", tan), ("tanh", tanh)]

/-- The operator with the given spelling, in lower case. -/
def ofSpelling? (text : String) : Option Operator :=
  (spellings.find? (·.1 = text)).map Prod.snd

/-- The spellings of the operator, in the order of the table. -/
def aliases (op : Operator) : List String :=
  (spellings.filter (·.2 = op)).map Prod.fst

/-- The new value of a target. Doubles follow IEEE 754, so every operation has a result. -/
def apply (op : Operator) (target operand : Float) : Float :=
  match op with
  | set => operand
  | add => target + operand
  | sub => target - operand
  | mul => target * operand
  | div => target / operand
  | mod => Arithmetic.remainder target operand
  | pow => target.pow operand
  | min => Arithmetic.smaller target operand
  | max => Arithmetic.larger target operand
  | atan2 => target.atan2 operand
  | abs => operand.abs
  | acos => operand.acos
  | acosh => Arithmetic.arcosh operand
  | asin => operand.asin
  | asinh => Arithmetic.arsinh operand
  | atan => operand.atan
  | atanh => Arithmetic.artanh operand
  | cbrt => operand.cbrt
  | ceil => operand.ceil
  | cos => operand.cos
  | cosh => operand.cosh
  | floor => operand.floor
  | log => operand.log
  | round => operand.round
  | sin => operand.sin
  | sinh => operand.sinh
  | sqrt => operand.sqrt
  | tan => operand.tan
  | tanh => operand.tanh

theorem apply_of_shape_ne_compound {op : Operator} (h : op.shape ≠ .compound)
    (s t operand : Float) : op.apply s operand = op.apply t operand := by
  cases op <;> simp_all [shape, apply]

end Operator

end PixelMath
