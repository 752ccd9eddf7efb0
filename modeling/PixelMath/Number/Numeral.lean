import PixelMath.Number.Decimal

/-!
# Numerals

The decimal literals of program text:
`[+-]? (digits ('.' digits?)? | '.' digits) ([eE] [+-]? digits)?`.

## Main definitions

* `Numeral.decimal?` — the decimal number that a text denotes, if it is a numeral.
* `Numeral.value?` — the double nearest to it.
-/

namespace PixelMath.Numeral

/-- A leading sign, `true` for minus, and what follows it. -/
def sign : List Char → Bool × List Char
  | '+' :: cs => (false, cs)
  | '-' :: cs => (true, cs)
  | cs => (false, cs)

/-- The leading digits and what follows them. -/
def digits (cs : List Char) : List Char × List Char :=
  (cs.takeWhile Char.isDigit, cs.dropWhile Char.isDigit)

/-- The digits behind a leading point, if there is one, and what follows them. -/
def fraction : List Char → List Char × List Char
  | '.' :: cs => digits cs
  | cs => ([], cs)

/-- The whole number with the given digits. -/
def ofDigits (cs : List Char) : Nat :=
  Nat.ofDigitChars 10 cs 0

/-- The exponent that a text denotes from its marker to its end; an empty text denotes zero. -/
def exponent? : List Char → Option Int
  | [] => some 0
  | c :: cs =>
    if c = 'e' ∨ c = 'E' then
      let (negative, cs) := sign cs
      match digits cs with
      | ([], _) => none
      | (ds, []) => some (if negative then -(ofDigits ds : Int) else ofDigits ds)
      | _ => none
    else none

/-- The decimal number that the characters denote. -/
def decimalOfChars? (cs : List Char) : Option Decimal := do
  let (negative, cs) := sign cs
  let (whole, cs) := digits cs
  let (part, cs) := fraction cs
  if whole.isEmpty && part.isEmpty then none
  else
    let e ← exponent? cs
    return { negative, coefficient := ofDigits (whole ++ part), exponent := e - part.length }

/-- The decimal number that a text denotes, if it is a numeral. -/
def decimal? (text : String) : Option Decimal :=
  decimalOfChars? text.toList

/-- The double nearest to the number that a text denotes, if it is a numeral. -/
def value? (text : String) : Option Float :=
  (decimal? text).map Decimal.toFloat

end PixelMath.Numeral
