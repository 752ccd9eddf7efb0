import PixelMath.Number.Binary

/-!
# Arithmetic on doubles

The functions on doubles that a program can use and that are not given by a single operation of
`Float`.

## Main definitions

* `Arithmetic.remainder` — the remainder of a division rounded toward zero.
* `Arithmetic.smaller`, `Arithmetic.larger` — minimum and maximum that prefer a number to a NaN.
* `Arithmetic.logOnePlus` — the natural logarithm of `1 + x`, precise near zero.
* `Arithmetic.arsinh`, `Arithmetic.arcosh`, `Arithmetic.artanh` — the inverse hyperbolic functions.
-/

namespace PixelMath.Arithmetic

/-- The remainder of `x / y` with the quotient rounded toward zero. It has the sign of `x` and is
exact: both numbers are whole multiples of the smaller of their two units. -/
def remainder (x y : Float) : Float :=
  if x.isNaN || y.isNaN || x.isInf || y == 0 then 0 / 0
  else if y.isInf then x
  else
    let a := Binary.ofFloat x
    let b := Binary.ofFloat y
    let e := min a.exponent b.exponent
    Binary.toFloat
      { negative := a.negative
        mantissa := a.mantissa * Nat.pow 2 (a.exponent - e).toNat %
          (b.mantissa * Nat.pow 2 (b.exponent - e).toNat)
        exponent := e }

/-- The smaller of two numbers; a NaN gives way to a number. -/
def smaller (x y : Float) : Float :=
  if x.isNaN then y else if y < x then y else x

/-- The larger of two numbers; a NaN gives way to a number. -/
def larger (x y : Float) : Float :=
  if x.isNaN then y else if x < y then y else x

/-- The first number with the sign of the second. -/
def withSign (x sign : Float) : Float :=
  if (Binary.ofFloat sign).negative then -x.abs else x.abs

/-- The natural logarithm of `1 + x`. The rounding error of `1 + x` is divided out again, so the
result is precise for small `x` too. -/
def logOnePlus (x : Float) : Float :=
  let u := 1 + x
  if u == 1 || (u.isInf && 0 < u) then x else u.log * (x / (u - 1))

/-- The logarithm of `2 * x`, also where `2 * x` is past the largest number. -/
def logTwice (x : Float) : Float :=
  x.log + (2 : Float).log

/-- The number from which on `x` and the root of `x * x + 1` agree to the last place. -/
def hyperbolicLimit : Float := 0x10000000

/-- The inverse hyperbolic sine. -/
def arsinh (x : Float) : Float :=
  let a := x.abs
  let i := 1 / a
  withSign
    (if hyperbolicLimit ≤ a then logTwice a else logOnePlus (a + a / ((1 + i * i).sqrt + i))) x

/-- The inverse hyperbolic cosine, a NaN below one. The distance to one is taken first, so the
result is precise for `x` near one too. -/
def arcosh (x : Float) : Float :=
  if x < 1 then 0 / 0
  else if hyperbolicLimit ≤ x then logTwice x
  else
    let t := x - 1
    logOnePlus (t + (t * (t + 2)).sqrt)

/-- The inverse hyperbolic tangent. -/
def artanh (x : Float) : Float :=
  0.5 * logOnePlus (2 * x / (1 - x))

end PixelMath.Arithmetic
