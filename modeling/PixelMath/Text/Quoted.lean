import PixelMath.Text.Quoted.Table

/-!
# Quoted text

A text between double quotes, in which every character can be told apart: quotes and backslashes
are escaped, the common controls have short names, and whatever leaves no mark of its own is
written by its code.

## Main definitions

* `hasGlyph` — the characters that can be written as they are.
* `escape` — a character as it stands inside quotes.
* `quoted` — a text in quotes.
* `quotedList` — quoted texts in brackets, separated by commas.
-/

namespace PixelMath.Text

/-- The digits of a number in base sixteen, in small letters and without leading zeros. -/
def hexDigits (n : Nat) : String :=
  String.ofList (Nat.toDigits 16 n)

/-- Whether a character leaves a mark of its own on paper. -/
def hasGlyph (c : Char) : Bool :=
  !([unprintableRanges, joiningMarkRanges, fillerRanges].any (CodeRange.covers · c))

/-- A character as it stands between double quotes. -/
def escape (c : Char) : String :=
  match c with
  | '\x00' => "\\0"
  | '\t' => "\\t"
  | '\n' => "\\n"
  | '\r' => "\\r"
  | '"' => "\\\""
  | '\\' => "\\\\"
  | _ =>
    if hasGlyph c then c.toString
    else "\\u\x7b" ++ hexDigits c.toNat ++ "\x7d"

/-- A text between double quotes. -/
def quoted (text : String) : String :=
  "\"" ++ String.join (text.toList.map escape) ++ "\""

/-- A list of quoted texts, between brackets and separated by commas. -/
def quotedList (texts : List String) : String :=
  "[" ++ ", ".intercalate (texts.map quoted) ++ "]"

end PixelMath.Text
