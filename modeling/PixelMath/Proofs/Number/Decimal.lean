import PixelMath.Number.Shortest
import PixelMath.Proofs.Number.Nearest

/-!
# Decimal numbers and doubles

Reading a decimal number takes two short cuts, one for numbers that are too small to matter and
one for numbers past the largest double. Neither changes the result, which is the nearest double in
every case, so a decimal number with the value of a double reads as this double. The digits that
are written for a double are found by reading candidates back, with all the digits of the double as
a last resort.

## Main definitions

* `Decimal.magnitude` — the absolute value of a decimal number.

## Main results

* `Decimal.magnitude_lt_of_vanishes`, `Decimal.le_magnitude_of_lt_exponent` — the short cuts.
* `Decimal.toFloat_eq_nearest` — they change nothing.
* `Decimal.toFloat_rounds` — a decimal number reads as the double nearest to it.
* `Decimal.toFloat_eq_of_magnitude` — a decimal number with the value of a double reads as it.
* `Decimal.toFloat_ofFloat` — the digits written for a finite double read as it.
-/

namespace PixelMath

namespace Decimal

variable {d : Decimal} {x : Float}

/-- The absolute value of the number. -/
def magnitude (d : Decimal) : ℚ :=
  d.coefficient * 10 ^ d.exponent

/-! ### The short cuts -/

/-- A number that is skipped as too small lies far below half the smallest double. -/
theorem magnitude_lt_of_vanishes (h : d.vanishes) : d.magnitude < (2 : ℚ) ^ (-1099 : Int) := by
  have hsize : (d.coefficient.log2 : Int) + 1100 < -3 * d.exponent := of_decide_eq_true h
  have hcoefficient : (d.coefficient : ℚ) < 2 ^ ((d.coefficient.log2 : Int) + 1) := by
    exact_mod_cast Nat.lt_log2_self
  -- the exponent is negative, so ten may be replaced by the smaller eight
  have hneg : d.exponent ≤ 0 := by omega
  have hpow : (10 : ℚ) ^ d.exponent ≤ 2 ^ (3 * d.exponent) := by
    rw [zpow_mul, show (2 : ℚ) ^ (3 : Int) = 8 by norm_num]
    obtain ⟨n, hn⟩ := Int.eq_ofNat_of_zero_le (neg_nonneg.mpr hneg)
    rw [← neg_neg d.exponent, hn, zpow_neg, zpow_neg]
    refine inv_anti₀ (by positivity) ?_
    simp only [zpow_natCast]
    exact pow_le_pow_left₀ (by norm_num) (by norm_num) n
  calc d.magnitude
      < 2 ^ ((d.coefficient.log2 : Int) + 1) * 10 ^ d.exponent :=
        mul_lt_mul_of_pos_right hcoefficient (by positivity)
    _ ≤ 2 ^ ((d.coefficient.log2 : Int) + 1) * 2 ^ (3 * d.exponent) := by gcongr
    _ = 2 ^ ((d.coefficient.log2 : Int) + 1 + 3 * d.exponent) :=
        (zpow_add₀ two_ne_zero _ _).symm
    _ ≤ 2 ^ (-1099 : Int) := zpow_le_zpow_right₀ (by norm_num) (by omega)

/-- A number with an exponent past the bound lies above every finite double. -/
theorem le_magnitude_of_lt_exponent (h : d.coefficient ≠ 0) (he : maxExponent < d.exponent) :
    (2 : ℚ) ^ (1024 : Int) ≤ d.magnitude := by
  have hone : (1 : ℚ) ≤ d.coefficient := by exact_mod_cast Nat.pos_of_ne_zero h
  have he' : (400 : Int) ≤ d.exponent := he.le
  calc (2 : ℚ) ^ (1024 : Int) ≤ 8 ^ (400 : Int) := by
        rw [show (8 : ℚ) = 2 ^ (3 : Int) by norm_num, ← zpow_mul]
        exact zpow_le_zpow_right₀ (by norm_num) (by norm_num)
    _ ≤ 10 ^ (400 : Int) := zpow_le_zpow_left₀ (by norm_num) (by norm_num) (by norm_num)
    _ ≤ 10 ^ d.exponent := zpow_le_zpow_right₀ (by norm_num) he'
    _ = 1 * 10 ^ d.exponent := (one_mul _).symm
    _ ≤ d.magnitude := by
        rw [magnitude]
        gcongr

/-! ### The nearest double -/

/-- The numerator of the absolute value. -/
def numerator (d : Decimal) : Nat :=
  d.coefficient * Nat.pow 10 d.exponent.toNat

/-- The denominator of the absolute value. -/
def denominator (d : Decimal) : Nat :=
  Nat.pow 10 (-d.exponent).toNat

theorem denominator_pos (d : Decimal) : 0 < d.denominator :=
  Nat.pow_pos (by decide)

theorem numerator_div_denominator (d : Decimal) :
    (d.numerator : ℚ) / d.denominator = d.magnitude := by
  rw [magnitude, zpow_eq_pow_div_pow, mul_div_assoc']
  simp [numerator, denominator]

/-- The short cuts give the bits that rounding the fraction gives. -/
theorem toFloat_eq_nearest (d : Decimal) :
    d.toFloat = nearest d.negative d.numerator d.denominator := by
  have hd := d.denominator_pos
  rw [toFloat]
  split_ifs with hzero hlarge
  · have hbits : nearestBits d.numerator d.denominator = 0 := by
      refine nearestBits_of_lt hd ?_
      rw [numerator_div_denominator]
      rcases hzero with hzero | hvanishes
      · rw [magnitude, hzero, Nat.cast_zero, zero_mul]
        positivity
      · exact (magnitude_lt_of_vanishes hvanishes).trans_le
          (zpow_le_zpow_right₀ (by norm_num) (by decide))
    rw [nearest, nearest, hbits]
    rfl
  · have hbits : nearestBits d.numerator d.denominator = infinityBits := by
      refine nearestBits_of_le hd ?_
      rw [numerator_div_denominator]
      exact le_magnitude_of_lt_exponent (fun h => hzero (.inl h)) hlarge
    -- the power of two is not to be evaluated
    generalize hk : 1024 = k
    rw [nearest, nearest, hbits, nearestBits_pow hk.le]
  · rfl

/-- A decimal number reads as the number of 53 bits nearest to it, with ties to even, or as an
infinity where this exceeds every finite double. -/
theorem toFloat_rounds (d : Decimal) :
    ∃ r : Binary, r.IsRounding d.magnitude ∧
      (d.toFloat.isFinite → Binary.ofFloat d.toFloat = { r with negative := d.negative }) ∧
      (d.toFloat.isInf ↔
        ∀ y : Float, y.isFinite → (Binary.ofFloat y).magnitude < r.magnitude) := by
  have hd := d.denominator_pos
  refine ⟨Binary.rounded d.numerator d.denominator, ?_, ?_, ?_⟩
  · rw [← numerator_div_denominator]
    exact Binary.isRounding_rounded _ hd
  · rw [toFloat_eq_nearest]
    exact ofFloat_nearest hd
  · rw [toFloat_eq_nearest]
    exact isInf_nearest_iff _ _ hd

/-! ### Reading back -/

/-- A decimal number with the sign and the absolute value of a finite double reads as this
double. -/
theorem toFloat_eq_of_magnitude (hx : x.isFinite)
    (hs : d.negative = (Binary.ofFloat x).negative)
    (hm : d.magnitude = (Binary.ofFloat x).magnitude) : d.toFloat = x := by
  rw [toFloat_eq_nearest, hs]
  exact nearest_eq_of_magnitude hx d.denominator_pos (d.numerator_div_denominator.trans hm)

/-- Reading a decimal number gives a number or an infinity. -/
theorem isNaN_toFloat (d : Decimal) : d.toFloat.isNaN = false := by
  rw [toFloat_eq_nearest]
  exact isNaN_nearest _ _ _

theorem magnitude_exact (b : Binary) : (exact b).magnitude = b.magnitude := by
  have hten : ∀ n : Nat, (10 : ℚ) ^ n = 5 ^ n * 2 ^ n := fun n => by rw [← mul_pow]; norm_num
  rw [magnitude, Binary.magnitude, zpow_eq_pow_div_pow 2]
  simp only [exact, Nat.pow_eq, zpow_neg, zpow_natCast, hten]
  push_cast
  field_simp

theorem eq_of_readsAs (h : d.readsAs x) : d.toFloat = x :=
  Float.toBits_inj.mp (beq_iff_eq.mp h)

/-- A neighbour is a multiple of the power of ten, and only taken where it reads back. -/
theorem ofGrid_of_neighbour? {e : Int} (h : neighbour? x e = some d) :
    (∃ n, d = ofGrid (Binary.ofFloat x).negative n e) ∧ d.readsAs x := by
  simp only [neighbour?] at h
  split at h
  · rename_i hbelow habove
    obtain rfl := Option.some.inj h
    split_ifs
    · exact ⟨⟨_, rfl⟩, hbelow⟩
    · exact ⟨⟨_, rfl⟩, habove⟩
  · rename_i hbelow habove
    obtain rfl := Option.some.inj h
    exact ⟨⟨_, rfl⟩, hbelow⟩
  · rename_i hbelow habove
    obtain rfl := Option.some.inj h
    exact ⟨⟨_, rfl⟩, habove⟩
  · cases h

/-- The digits written for a finite double: the exact ones, ones that were read back, or a zero. -/
theorem ofFloat_cases (x : Float) :
    ((Binary.ofFloat x).mantissa = 0 ∧ ofFloat x = ⟨(Binary.ofFloat x).negative, 0, 0⟩) ∨
      (∃ e, neighbour? x e = some (ofFloat x)) ∨ ofFloat x = exact (Binary.ofFloat x) := by
  by_cases hzero : (Binary.ofFloat x).mantissa = 0
  · exact .inl ⟨hzero, by simp only [ofFloat, if_pos hzero]⟩
  · simp only [ofFloat, if_neg hzero]
    refine .inr ?_
    generalize hfound : List.findSome? _ _ = found
    cases found with
    | none => exact .inr rfl
    | some d =>
      obtain ⟨i, -, hi⟩ := List.exists_of_findSome?_eq_some hfound
      exact .inl ⟨_, hi⟩

/-- The digits written for a finite double read as this double. -/
theorem toFloat_ofFloat (hx : x.isFinite) : (ofFloat x).toFloat = x := by
  rcases ofFloat_cases x with ⟨hzero, h⟩ | ⟨e, h⟩ | h
  · rw [h]
    refine toFloat_eq_of_magnitude hx rfl ?_
    rw [Binary.magnitude_of_mantissa_eq_zero hzero, magnitude]
    simp
  · exact eq_of_readsAs (ofGrid_of_neighbour? h).2
  · rw [h]
    exact toFloat_eq_of_magnitude hx rfl (magnitude_exact _)

end Decimal

end PixelMath
