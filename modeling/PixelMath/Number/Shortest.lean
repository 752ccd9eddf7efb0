import PixelMath.Number.Decimal

/-!
# The shortest text of a double

A double is written with the fewest digits that read back as the same double. Of two candidates
with that many digits the nearer one is taken, and the larger one when both are equally near.

## Main definitions

* `Decimal.ofFloat` — the decimal number that stands for a finite double.
* `floatText` — the text of any double.
-/

namespace PixelMath

namespace Decimal

/-- Takes the zeros off the end of the last `places` digits of a number. -/
def stripZeros : Nat → Nat → Nat × Nat
  | n, 0 => (n, 0)
  | n, places + 1 => if n % 10 = 0 then stripZeros (n / 10) places else (n, places + 1)

/-- The number `n · 10 ^ e` in the form in which it is written: without zeros at the end of its
places and with no exponent above zero. -/
def ofGrid (negative : Bool) (n : Nat) (e : Int) : Decimal :=
  let (coefficient, places) := stripZeros (n * Nat.pow 10 e.toNat) (-e).toNat
  { negative, coefficient, exponent := -(places : Int) }

/-- All the digits of a double. -/
def exact (b : Binary) : Decimal :=
  { negative := b.negative
    coefficient := b.mantissa * Nat.pow 2 b.exponent.toNat * Nat.pow 5 (-b.exponent).toNat
    exponent := -((-b.exponent).toNat : Int) }

/-- The least `k` with `num / den < 10 ^ k`, for a positive fraction within the range of
doubles. An estimate from the binary logarithm is off by one at most. -/
def decade (num den : Nat) : Int :=
  let k := floorLog2 num den * 1233 / 4096 + 1
  if den * Nat.pow 10 k.toNat ≤ num * Nat.pow 10 (-k).toNat then k + 1
  else if num * Nat.pow 10 (1 - k).toNat < den * Nat.pow 10 (k - 1).toNat then k - 1
  else k

/-- Whether the number reads as the double `x`. -/
def readsAs (x : Float) (d : Decimal) : Bool :=
  d.toFloat.toBits == x.toBits

/-- Of the two neighbours of a double among the multiples of `10 ^ e`, the one that stands for
it: it has to read back, and of two that do it is the nearer one, or the larger one of equally
near ones. -/
def neighbour? (x : Float) (e : Int) : Option Decimal :=
  let b := Binary.ofFloat x
  let num := b.numerator * Nat.pow 10 (-e).toNat
  let den := b.denominator * Nat.pow 10 e.toNat
  let below := ofGrid b.negative (num / den) e
  let above := ofGrid b.negative (num / den + 1) e
  match below.readsAs x, above.readsAs x with
  | true, true => some (if 2 * (num % den) < den then below else above)
  | true, false => some below
  | false, true => some above
  | false, false => none

/-- The number with the fewest digits that reads as the finite double `x`; seventeen are always
enough, and all the digits of `x` would do as well. -/
def ofFloat (x : Float) : Decimal :=
  let b := Binary.ofFloat x
  if b.mantissa = 0 then { negative := b.negative, coefficient := 0, exponent := 0 }
  else
    let k := decade b.numerator b.denominator
    ((List.range 17).findSome? fun (i : Nat) => neighbour? x (k - (i + 1))).getD (exact b)

end Decimal

/-- The text of a double: its shortest digits without an exponent, or the name of a special
value. -/
def floatText (x : Float) : String :=
  if x.isNaN then "NaN"
  else if x.isInf then (if x < 0 then "-inf" else "inf")
  else (Decimal.ofFloat x).text

end PixelMath
