/-!
# Doubles as exact numbers

A finite double is a sign, a whole mantissa and a power of two. Here a double is taken apart into
these, and any non-negative fraction is rounded to the nearest double.

## Main definitions

* `Binary` — the number `± mantissa · 2 ^ exponent`.
* `Binary.ofFloat` — the number that a finite double stands for.
* `nearestBits`, `nearest` — the double nearest to a fraction, ties to even.

## Main results

* `Binary.ofFloat_bounds` — mantissa and exponent of a double stay in the range of the format.
-/

namespace PixelMath

/-! ### The layout of a double -/

/-- The weight of the exponent field, `2 ^ 52`; the fraction field lies below it. -/
def fieldUnit : Nat := 0x10000000000000

/-- The number of exponent fields, `2 ^ 11`. -/
def fieldCount : Nat := 0x800

/-- The weight of the sign bit, `2 ^ 63`. -/
def signUnit : Nat := 0x8000000000000000

/-- The bits of positive infinity: the last exponent field and no fraction. -/
def infinityBits : Nat := (fieldCount - 1) * fieldUnit

/-- The exponent of the smallest positive double. -/
def minExponent : Int := -1074

/-! ### Taking a double apart -/

/-- The number `mantissa · 2 ^ exponent`, negated when `negative` is set. -/
structure Binary where
  negative : Bool
  mantissa : Nat
  exponent : Int
deriving DecidableEq, Repr

namespace Binary

/-- The number that a finite double stands for. The first exponent field is that of the second
without the leading bit of the mantissa. -/
def ofFloat (x : Float) : Binary :=
  let bits := x.toBits.toNat
  let fraction := bits % fieldUnit
  let field := bits / fieldUnit % fieldCount
  { negative := decide (signUnit ≤ bits)
    mantissa := if field = 0 then fraction else fieldUnit + fraction
    exponent := ((field - 1 : Nat) : Int) + minExponent }

theorem ofFloat_bounds (x : Float) :
    (ofFloat x).mantissa < 2 * fieldUnit ∧ minExponent ≤ (ofFloat x).exponent ∧
      (ofFloat x).exponent ≤ fieldCount - 2 + minExponent := by
  have hf : x.toBits.toNat % fieldUnit < fieldUnit := Nat.mod_lt _ (by decide)
  have he : x.toBits.toNat / fieldUnit % fieldCount < fieldCount := Nat.mod_lt _ (by decide)
  have hc : fieldCount = 2048 := rfl
  refine ⟨?_, ?_, ?_⟩
  · simp only [ofFloat]
    split <;> omega
  · simp only [ofFloat]
    omega
  · simp only [ofFloat]
    omega

/-- The numerator of the absolute value. -/
def numerator (b : Binary) : Nat :=
  b.mantissa * Nat.pow 2 b.exponent.toNat

/-- The denominator of the absolute value. -/
def denominator (b : Binary) : Nat :=
  Nat.pow 2 (-b.exponent).toNat

end Binary

/-! ### Rounding a fraction -/

/-- The exponent of the largest power of two not above the positive fraction `num / den`. -/
def floorLog2 (num den : Nat) : Int :=
  let e : Int := (num.log2 : Int) - den.log2
  if den * Nat.pow 2 e.toNat ≤ num * Nat.pow 2 (-e).toNat then e else e - 1

/-- The whole number nearest to `num / den`; of two equally near ones the even one. -/
def halfEven (num den : Nat) : Nat :=
  let q := num / den
  let r := num % den
  if 2 * r < den ∨ (2 * r = den ∧ q % 2 = 0) then q else q + 1

/-- The exponent of the last mantissa bit that a double near the positive fraction `num / den`
has. -/
def gridExponent (num den : Nat) : Int :=
  max minExponent (floorLog2 num den - 52)

/-- The bits of the double nearest to the fraction `num / den`, ties to even. The mantissa carries
over into the exponent field when it rounds up to the next power of two, and a fraction past the
largest double becomes infinity. -/
def nearestBits (num den : Nat) : Nat :=
  if num = 0 then 0
  else
    let e := gridExponent num den
    let m := halfEven (num * Nat.pow 2 (-e).toNat) (den * Nat.pow 2 e.toNat)
    min (m + (e - minExponent).toNat * fieldUnit) infinityBits

/-- The double nearest to `num / den`, with the given sign. -/
def nearest (negative : Bool) (num den : Nat) : Float :=
  Float.ofBits (UInt64.ofNat (nearestBits num den + if negative then signUnit else 0))

/-- The double nearest to the number; it is the number itself where that is a double. -/
def Binary.toFloat (b : Binary) : Float :=
  nearest b.negative b.numerator b.denominator

end PixelMath
