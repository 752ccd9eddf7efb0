import PixelMath.Number.Binary

/-!
# Decimal numbers

Decimal numbers and their two readings: as a double, and as text without an exponent.

## Main definitions

* `Decimal` — the number `± coefficient · 10 ^ exponent`.
* `Decimal.toFloat` — the double nearest to it.
* `Decimal.text` — its digits with a point where one is needed.
-/

namespace PixelMath

/-- The number `coefficient · 10 ^ exponent`, negated when `negative` is set. -/
structure Decimal where
  negative : Bool
  coefficient : Nat
  exponent : Int
deriving DecidableEq, Repr

namespace Decimal

/-- Exponents above this one take every positive coefficient past the largest double. -/
def maxExponent : Int := 400

/-- Whether the number is so small that it rounds to zero, seen from the sizes of coefficient and
exponent alone: `10 ^ 3 > 2 ^ 9`. -/
def vanishes (d : Decimal) : Bool :=
  decide ((d.coefficient.log2 : Int) + 1100 < -3 * d.exponent)

/-- The double nearest to the number, ties to even. Powers of ten are only formed where they can
matter, so an exponent of any size is harmless. -/
def toFloat (d : Decimal) : Float :=
  if d.coefficient = 0 ∨ d.vanishes then nearest d.negative 0 1
  else if maxExponent < d.exponent then nearest d.negative (Nat.pow 2 1024) 1
  else
    nearest d.negative (d.coefficient * Nat.pow 10 d.exponent.toNat)
      (Nat.pow 10 (-d.exponent).toNat)

/-- The digits of a whole number with the last `places` of them behind a point. -/
def pointed (n places : Nat) : List Char :=
  let digits := (Nat.toDigits 10 n).leftpad (places + 1) '0'
  if places = 0 then digits
  else digits.take (digits.length - places) ++ '.' :: digits.drop (digits.length - places)

/-- The number in digits, with a point where there are places behind it and never with an
exponent. -/
def chars (d : Decimal) : List Char :=
  (if d.negative then ['-'] else []) ++
    pointed (d.coefficient * Nat.pow 10 d.exponent.toNat) (-d.exponent).toNat

/-- The text of the number. -/
def text (d : Decimal) : String :=
  String.ofList d.chars

end Decimal

end PixelMath
