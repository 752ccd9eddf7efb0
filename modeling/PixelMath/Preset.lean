import PixelMath.Program.Compile

/-!
# Presets

Ready-made programs for common adjustments of lightness and chroma. A preset is program text with
the format that it is written for, and is compiled like any other text.

## Main definitions

* `Preset` — a named text and its format.
* `Preset.filmicChroma`, `Preset.filmicSaturation`, `Preset.invertLightness`.
* `Preset.find?` — the preset of a name, with its usual parameters.
-/

namespace PixelMath

/-- A named program text for a format. -/
structure Preset where
  name : String
  format : PixelFormat
  source : String
deriving DecidableEq, Repr

namespace Preset

/-- The program of the preset. -/
def compile (p : Preset) : Except CompileError Program :=
  PixelMath.compile p.format p.source

/-- A parameter moved into its range; a NaN becomes the low end. -/
def clamp (low high x : Float) : Float :=
  if x.isNaN then low else if x < low then low else if high < x then high else x

/-- The effective scale of `filmicChroma`, from a tenth to one. -/
def filmicScale (scale : Float) : Float := clamp 0.1 1 scale

/-- The effective offset of `filmicChroma`, from zero to one. -/
def filmicOffset (offset : Float) : Float := clamp 0 1 offset

/-- Scales chroma by `(1 + offset) - l · scale / 100`, as a filmic tone curve does. `scale` says how
fast chroma falls with lightness and `offset` adds chroma everywhere; with `invert`, dark colours
lose chroma in place of light ones. -/
def filmicChroma (scale offset : Float) (invert : Bool) : Preset :=
  let lightness := if invert then "v2 = 100\nv2 - l\n" else "v2 = l\n"
  { name := "filmic-chroma"
    format := .lcha
    source :=
      s!"v1 = {floatText (1 + filmicOffset offset)}\n" ++ lightness ++
        s!"v2 / {floatText (100 / filmicScale scale)}\nv1 - v2\nc * v1\n" }

/-- Lowers chroma in proportion to lightness: `c - l · c / 100`. -/
def filmicSaturation : Preset :=
  { name := "filmic-saturation"
    format := .lcha
    source := "v1 = l\nv1 * c\nv1 / 100\nc - v1\n" }

/-- Turns lightness around: `1 - l`. -/
def invertLightness : Preset :=
  { name := "invert-lightness"
    format := .hsla
    source := "v1 = l\nl = 1\nl - v1\n" }

/-- The presets with their usual parameters. -/
def all : List Preset :=
  [filmicChroma 1 0.25 false, filmicSaturation, invertLightness]

/-- The names of the presets. -/
def names : List String := all.map name

/-- The preset with the given name, with its usual parameters. -/
def find? (name : String) : Option Preset :=
  all.find? (·.name = name)

end Preset

end PixelMath
