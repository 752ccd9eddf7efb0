import PixelMath.Program.Error

/-!
# Symbols

The names of a program: the channels of the pixel, nine scratch variables and three constants. The
letters of the format are looked up first, so a letter hides every other meaning of its name.

## Main definitions

* `Slot` — what a statement can write, a channel or a variable.
* `Constant` — the named values.
* `Symbol` — a slot or a constant.
* `Symbol.resolve` — the symbol that a token names in a format.
-/

namespace PixelMath

/-- The number of scratch variables of a pixel. -/
abbrev scratchCount : Nat := 9

/-- A place that holds a value while a pixel is worked on. -/
inductive Slot where
  /-- A channel of the pixel. -/
  | channel (i : Fin maxChannels)
  /-- A scratch variable. -/
  | scratch (i : Fin scratchCount)
deriving DecidableEq, Repr

/-- The named values. -/
inductive Constant where
  /-- The ratio of a circle's circumference to its diameter. -/
  | pi
  /-- The base of the natural logarithm. -/
  | e
  /-- A fresh sample from `[0, 1)` on every read. -/
  | rand
deriving DecidableEq, Repr

/-- What a name stands for. -/
inductive Symbol where
  | slot (s : Slot)
  | constant (c : Constant)
deriving DecidableEq, Repr

/-- The name of a scratch variable: `v1` to `v9`. -/
def scratchName (i : Fin scratchCount) : String :=
  s!"v{i.val + 1}"

/-- The scratch variable with the given name; `v` is short for `v1`. -/
def scratchIndex? (name : String) : Option (Fin scratchCount) :=
  if name = "v" then some 0
  else (List.finRange scratchCount).find? (scratchName · = name)

namespace Slot

/-- Whether a pixel with the given number of channels has the slot. -/
def Fits (channels : Nat) : Slot → Prop
  | channel i => i.val < channels
  | scratch _ => True

instance (channels : Nat) : DecidablePred (Fits channels)
  | channel i => inferInstanceAs (Decidable (i.val < channels))
  | scratch _ => inferInstanceAs (Decidable True)

/-- The name under which the slot is listed. -/
def name : Slot → String
  | channel i => positionalName i
  | scratch i => scratchName i

end Slot

namespace Constant

/-- Every constant. -/
def all : List Constant := [pi, e, rand]

/-- The name of the constant. -/
def name : Constant → String
  | pi => "pi"
  | e => "e"
  | rand => "rand"

/-- The constant with the given name. -/
def ofName? (text : String) : Option Constant :=
  all.find? (·.name = text)

end Constant

namespace Symbol

/-- The name under which the symbol is listed. -/
def name : Symbol → String
  | slot s => s.name
  | constant c => c.name

/-- Whether a statement may write to the symbol. -/
def isAssignable : Symbol → Bool
  | slot _ => true
  | constant _ => false

/-- The symbol that a token names in a format, if it names one. A positional name of a channel that
the format lacks is an error. -/
def resolve (f : PixelFormat) (site : Site) : Except CompileError (Option Symbol) :=
  match f.channelIndex? site.text with
  | some i => .ok (some (.slot (.channel i)))
  | none =>
    match positionalIndex? site.text with
    | some i =>
      if i.val < f.channels then .ok (some (.slot (.channel i)))
      else .error (.token (.channelOutOfRange f.channels) site)
    | none =>
      match scratchIndex? site.text with
      | some i => .ok (some (.slot (.scratch i)))
      | none => .ok ((Constant.ofName? site.text).map .constant)

end Symbol

end PixelMath
