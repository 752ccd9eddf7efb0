import PixelMath.Text.Blank

/-!
# Pixel formats

A pixel format fixes how many channels a pixel has and which letters name them. Every format also
answers to the positional names `c1` to `c4`.

## Main definitions

* `PixelFormat` — the formats, `PixelFormat.all` in listing order.
* `PixelFormat.channels`, `PixelFormat.letters` — the layout of a pixel.
* `PixelFormat.channelIndex?`, `positionalIndex?` — the channel that a name stands for.
* `PixelFormat.parse` — the format of a given name.
* `FormatError` — why there is no format for a name or a buffer.
-/

namespace PixelMath

/-- The largest number of channels of a format. -/
abbrev maxChannels : Nat := 4

/-- Why no format can be used. -/
inductive FormatError where
  /-- No format has this name. -/
  | unsupported (name : String)
  /-- A buffer has `got` channels per pixel where the format has `expected`. -/
  | channelMismatch (expected got : Nat)
deriving DecidableEq, Repr

/-- The text of the error. -/
def FormatError.message : FormatError → String
  | unsupported name => s!"unsupported pixel format: {name}"
  | channelMismatch expected got =>
    s!"channel mismatch: format has {expected} channels, buffer stride is {got}"

/-- The layouts of a pixel. -/
inductive PixelFormat where
  /-- Red, green, blue, alpha. -/
  | rgba
  /-- Red, green, blue. -/
  | rgb
  /-- Hue, saturation, lightness, alpha. -/
  | hsla
  /-- Hue, saturation, lightness. -/
  | hsl
  /-- CIE XYZ with alpha. -/
  | xyza
  /-- CIE L*a*b* with alpha. -/
  | laba
  /-- CIE L*a*b*. -/
  | lab
  /-- CIE LCH(ab) with alpha. -/
  | lcha
  /-- CIE LCH(ab). -/
  | lch
  /-- Three channels without letters. -/
  | raw3
  /-- Four channels without letters. -/
  | raw4
deriving DecidableEq, Repr, Inhabited

/-- The positional name of a channel: `c1`, `c2`, `c3` or `c4`. -/
def positionalName (i : Fin maxChannels) : String :=
  s!"c{i.val + 1}"

/-- The channel with the given positional name. -/
def positionalIndex? (name : String) : Option (Fin maxChannels) :=
  (List.finRange maxChannels).find? (positionalName · = name)

namespace PixelFormat

/-- Every format, in listing order. -/
def all : List PixelFormat :=
  [rgba, rgb, hsla, hsl, xyza, laba, lab, lcha, lch, raw3, raw4]

theorem mem_all (f : PixelFormat) : f ∈ all := by
  cases f <;> decide

/-- The number of channels of a pixel. -/
def channels : PixelFormat → Nat
  | rgba | hsla | xyza | laba | lcha | raw4 => 4
  | rgb | hsl | lab | lch | raw3 => 3

theorem channels_pos (f : PixelFormat) : 0 < f.channels := by
  cases f <;> decide

theorem channels_le (f : PixelFormat) : f.channels ≤ maxChannels := by
  cases f <;> decide

/-- The letters of the channels, in order; a raw format has none. -/
def letters : PixelFormat → List Char
  | rgba => ['r', 'g', 'b', 'a']
  | rgb => ['r', 'g', 'b']
  | hsla => ['h', 's', 'l', 'a']
  | hsl => ['h', 's', 'l']
  | xyza => ['x', 'y', 'z', 'a']
  | laba => ['l', 'a', 'b', 'a']
  | lab => ['l', 'a', 'b']
  | lcha => ['l', 'c', 'h', 'a']
  | lch => ['l', 'c', 'h']
  | raw3 | raw4 => []

theorem length_letters_le (f : PixelFormat) : f.letters.length ≤ f.channels := by
  cases f <;> decide

/-- Whether the channels of the format have no letters. -/
def isRaw (f : PixelFormat) : Bool :=
  f.letters.isEmpty

/-- The short name of the format. -/
def name : PixelFormat → String
  | rgba => "rgba"
  | rgb => "rgb"
  | hsla => "hsla"
  | hsl => "hsl"
  | xyza => "xyza"
  | laba => "laba"
  | lab => "lab"
  | lcha => "lcha"
  | lch => "lch"
  | raw3 => "raw3"
  | raw4 => "raw4"

/-- The name an image host gives to the format. -/
def hostName? : PixelFormat → Option String
  | rgba => some "RGBA double"
  | rgb => some "RGB double"
  | hsla => some "HSLA double"
  | hsl => some "HSL double"
  | xyza => some "CIE XYZ alpha double"
  | laba => some "CIE Lab alpha double"
  | lab => some "CIE Lab double"
  | lcha => some "CIE LCH(ab) alpha double"
  | lch => some "CIE LCH(ab) double"
  | raw3 | raw4 => none

/-- Further short names. -/
def extraNames : PixelFormat → List String
  | laba => ["lab+a"]
  | lcha => ["lch(ab)a", "lch(ab)"]
  | raw4 => ["raw"]
  | _ => []

/-- Every name under which the format is found. -/
def spellings (f : PixelFormat) : List String :=
  f.hostName?.toList ++ f.name :: f.extraNames

/-- Whether two texts are equal but for the case of ASCII letters. -/
def sameSpelling (s t : String) : Bool :=
  s.toLower = t.toLower

/-- The format with the given name, whatever the case of its ASCII letters. Blanks around the name
do not count. -/
def parse (text : String) : Except FormatError PixelFormat :=
  let name := Text.trim text
  match all.find? (·.spellings.any (sameSpelling name)) with
  | some f => .ok f
  | none => .error (.unsupported name)

/-- The channel with the given letter. The first of two equal letters wins, so in `laba` the letter
`a` is the second channel and alpha can only be reached as `c4`. -/
def channelIndex? (f : PixelFormat) (name : String) : Option (Fin maxChannels) :=
  (List.finRange maxChannels).find? fun i => f.letters[i.val]?.map Char.toString = some name

/-- Fails unless a pixel of `stride` channels is a pixel of the format. -/
def checkStride (f : PixelFormat) (stride : Nat) : Except FormatError Unit :=
  if stride = f.channels then .ok () else .error (.channelMismatch f.channels stride)

end PixelFormat

end PixelMath
