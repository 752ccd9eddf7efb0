import PixelMath.Text.CodeRange

/-!
# Blanks

The characters that separate words: those with the Unicode property `White_Space`.

## Main definitions

* `isBlank` — whether a character is white space.
* `trim` — a text without the blanks at its two ends.
-/

namespace PixelMath.Text

/-- The code points with the property `White_Space`. -/
def blankRanges : List CodeRange :=
  [⟨0x09, 0x0D⟩, ⟨0x20, 0x20⟩, ⟨0x85, 0x85⟩, ⟨0xA0, 0xA0⟩, ⟨0x1680, 0x1680⟩, ⟨0x2000, 0x200A⟩,
   ⟨0x2028, 0x2029⟩, ⟨0x202F, 0x202F⟩, ⟨0x205F, 0x205F⟩, ⟨0x3000, 0x3000⟩]

/-- Whether the character is white space. -/
def isBlank (c : Char) : Bool :=
  CodeRange.covers blankRanges c

/-- The characters without the blanks before the first and after the last other one. -/
def trimBlanks (cs : List Char) : List Char :=
  ((cs.dropWhile isBlank).reverse.dropWhile isBlank).reverse

/-- The text without leading and trailing blanks. -/
def trim (text : String) : String :=
  String.ofList (trimBlanks text.toList)

end PixelMath.Text
