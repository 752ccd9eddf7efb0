import PixelMath.Text.Blank
import PixelMath.Text.LowerCase

/-!
# Tokens

Program text has no quotes, escapes or comments: a token is a maximal run of characters other than
blanks. Its text is in lower case, so that names and operators are found whatever their case.

## Main definitions

* `Site` — a token's text, its index among the tokens and its line.
* `Token` — a site and the byte offset of the token.
* `Place` — a line and a byte offset, moved along by `Place.after`.
* `tokens` — the tokens of a program text.
-/

namespace PixelMath

/-- What an error says about a token: its text in lower case, its index and its line. -/
structure Site where
  text : String
  index : Nat
  line : Nat
deriving DecidableEq, Repr

/-- A token of a program text. -/
structure Token extends Site where
  /-- The byte at which the token starts. -/
  offset : Nat
deriving DecidableEq, Repr

/-- A place in a text: lines count from one, bytes from zero. -/
structure Place where
  line : Nat := 1
  offset : Nat := 0
deriving DecidableEq, Repr

namespace Place

/-- The place behind a character. -/
def next (p : Place) (c : Char) : Place :=
  { line := if c = '\n' then p.line + 1 else p.line, offset := p.offset + c.utf8Size }

/-- The place behind some characters. -/
def after (p : Place) (cs : List Char) : Place :=
  cs.foldl next p

@[simp] theorem after_nil (p : Place) : p.after [] = p := rfl

@[simp] theorem after_cons (p : Place) (c : Char) (cs : List Char) :
    p.after (c :: cs) = (p.next c).after cs := rfl

theorem after_append (p : Place) (cs ds : List Char) :
    p.after (cs ++ ds) = (p.after cs).after ds :=
  List.foldl_append

end Place

namespace Token

/-- Whether the character belongs to a token. -/
def isWordChar (c : Char) : Bool := !Text.isBlank c

/-- The tokens of the characters found at `place`, numbered from `index`: skip the blanks, take the
word behind them, go on behind the word. -/
def scan (place : Place) (index : Nat) (cs : List Char) : List Token :=
  match h : cs.dropWhile Text.isBlank with
  | [] => []
  | c :: rest =>
    let start := place.after (cs.takeWhile Text.isBlank)
    let word := c :: rest.takeWhile isWordChar
    { text := String.ofList (Text.lowerChars word), index, line := start.line,
      offset := start.offset } ::
      scan (start.after word) (index + 1) (rest.dropWhile isWordChar)
termination_by cs.length
decreasing_by
  have h₁ := (List.dropWhile_sublist isWordChar (l := rest)).length_le
  have h₂ := (List.dropWhile_sublist Text.isBlank (l := cs)).length_le
  rw [h, List.length_cons] at h₂
  omega

end Token

/-- The tokens of a program text, in order. -/
def tokens (source : String) : List Token :=
  Token.scan {} 0 source.toList

end PixelMath
