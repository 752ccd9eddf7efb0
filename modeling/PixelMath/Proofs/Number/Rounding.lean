import PixelMath.Proofs.Number.Layout

/-!
# Rounding a fraction

The double nearest to a fraction depends on the value of the fraction only, not on how it is
written, and a fraction whose value is that of a double rounds to this double.

## Main definitions

* `Binary.magnitude` — the absolute value of a number in base two.
* `Binary.Canonical`, `Binary.bits` — the form of the numbers taken from doubles, and their place
  among the bit patterns.

## Main results

* `floorLog2_eq_log` — the power of two below a fraction.
* `nearestBits_congr` — equal fractions round to equal bits.
* `nearest_eq_of_magnitude` — a fraction with the value of a double rounds to it.
-/

namespace PixelMath

/-! ### Powers with whole exponents -/

/-- A power with a whole exponent as a fraction of powers with natural exponents. -/
theorem zpow_eq_pow_div_pow (b : ℚ) (e : Int) :
    b ^ e = b ^ e.toNat / b ^ (-e).toNat := by
  obtain ⟨n, rfl | rfl⟩ := e.eq_nat_or_neg
  · simp
  · simp

variable {num den num' den' : Nat}

theorem zpow_le_ratio_iff (hd : 0 < den) (e : Int) :
    (2 : ℚ) ^ e ≤ (num : ℚ) / den ↔
      den * Nat.pow 2 e.toNat ≤ num * Nat.pow 2 (-e).toNat := by
  have hdq : (0 : ℚ) < den := by exact_mod_cast hd
  rw [zpow_eq_pow_div_pow, div_le_div_iff₀ (by positivity) hdq, mul_comm]
  exact_mod_cast Iff.rfl

theorem log_eq_of_bounds {q : ℚ} {k : Int} (hl : (2 : ℚ) ^ k ≤ q) (hu : q < (2 : ℚ) ^ (k + 1)) :
    Int.log 2 q = k := by
  have hq : 0 < q := lt_of_lt_of_le (by positivity) hl
  have h₁ := (Int.zpow_le_iff_le_log (by decide : 1 < 2) hq).mp (by exact_mod_cast hl)
  have h₂ := (Int.lt_zpow_iff_log_lt (by decide : 1 < 2) hq).mp (by exact_mod_cast hu)
  omega

/-- The power of two below a fraction is the one below its value: the logarithms of numerator and
denominator are off by one at most. -/
theorem floorLog2_eq_log (hn : 0 < num) (hd : 0 < den) :
    floorLog2 num den = Int.log 2 ((num : ℚ) / den) := by
  have hdq : (0 : ℚ) < den := by exact_mod_cast hd
  have hn₁ : (2 : ℚ) ^ num.log2 ≤ num := by exact_mod_cast Nat.log2_self_le hn.ne'
  have hn₂ : (num : ℚ) < 2 ^ (num.log2 + 1) := by exact_mod_cast Nat.lt_log2_self
  have hd₁ : (2 : ℚ) ^ den.log2 ≤ den := by exact_mod_cast Nat.log2_self_le hd.ne'
  have hd₂ : (den : ℚ) < 2 ^ (den.log2 + 1) := by exact_mod_cast Nat.lt_log2_self
  have hlow : (2 : ℚ) ^ ((num.log2 : Int) - den.log2 - 1) ≤ (num : ℚ) / den := by
    rw [le_div_iff₀ hdq]
    calc (2 : ℚ) ^ ((num.log2 : Int) - den.log2 - 1) * den
        ≤ 2 ^ ((num.log2 : Int) - den.log2 - 1) * 2 ^ (den.log2 + 1) := by gcongr
      _ = 2 ^ num.log2 := by
          rw [← zpow_natCast, ← zpow_natCast, ← zpow_add₀ two_ne_zero]
          congr 1
          push_cast
          ring
      _ ≤ num := hn₁
  have hhigh : (num : ℚ) / den < 2 ^ ((num.log2 : Int) - den.log2 + 1) := by
    rw [div_lt_iff₀ hdq]
    calc (num : ℚ) < 2 ^ (num.log2 + 1) := hn₂
      _ = 2 ^ ((num.log2 : Int) - den.log2 + 1) * 2 ^ den.log2 := by
          rw [← zpow_natCast, ← zpow_natCast, ← zpow_add₀ two_ne_zero]
          congr 1
          push_cast
          ring
      _ ≤ 2 ^ ((num.log2 : Int) - den.log2 + 1) * den := by gcongr
  simp only [floorLog2, ← zpow_le_ratio_iff hd]
  split_ifs with h
  · exact (log_eq_of_bounds h hhigh).symm
  · refine (log_eq_of_bounds hlow ?_).symm
    rw [sub_add_cancel]
    exact not_le.mp h

/-! ### Equal fractions -/

theorem halfEven_mul_right (n d : Nat) {k : Nat} (hk : 0 < k) :
    halfEven (n * k) (d * k) = halfEven n d := by
  have hlt : 2 * (n % d * k) < d * k ↔ 2 * (n % d) < d := by
    rw [← mul_assoc, Nat.mul_lt_mul_right hk]
  have heq : 2 * (n % d * k) = d * k ↔ 2 * (n % d) = d := by
    rw [← mul_assoc, Nat.mul_left_inj hk.ne']
  simp only [halfEven, Nat.mul_div_mul_right _ _ hk, Nat.mul_mod_mul_right, hlt, heq]

theorem halfEven_congr (hd : 0 < den) (hd' : 0 < den') (h : num * den' = num' * den) :
    halfEven num den = halfEven num' den' :=
  calc halfEven num den = halfEven (num * den') (den * den') := (halfEven_mul_right _ _ hd').symm
    _ = halfEven (num' * den) (den' * den) := by rw [h, mul_comm den den']
    _ = halfEven num' den' := halfEven_mul_right _ _ hd

/-- A whole number is its own nearest one. -/
theorem halfEven_mul_self (m : Nat) {d : Nat} (hd : 0 < d) : halfEven (m * d) d = m := by
  simp [halfEven, Nat.mul_div_cancel _ hd, hd]

theorem ratio_eq_iff (hd : 0 < den) (hd' : 0 < den') :
    (num : ℚ) / den = (num' : ℚ) / den' ↔ num * den' = num' * den := by
  have hdq : (den : ℚ) ≠ 0 := by exact_mod_cast hd.ne'
  have hdq' : (den' : ℚ) ≠ 0 := by exact_mod_cast hd'.ne'
  rw [div_eq_div_iff hdq hdq']
  exact_mod_cast Iff.rfl

/-- The bits of the nearest double depend on the value of the fraction only. -/
theorem nearestBits_congr (hd : 0 < den) (hd' : 0 < den')
    (h : (num : ℚ) / den = (num' : ℚ) / den') : nearestBits num den = nearestBits num' den' := by
  have hcross := (ratio_eq_iff hd hd').mp h
  rcases Nat.eq_zero_or_pos num with rfl | hn
  · have hzero : num' = 0 := by
      rw [zero_mul, eq_comm, mul_eq_zero] at hcross
      exact hcross.resolve_right hd.ne'
    rw [hzero, nearestBits, nearestBits, if_pos rfl, if_pos rfl]
  · have hn' : 0 < num' := by
      refine Nat.pos_of_ne_zero fun hzero => ?_
      rw [hzero, zero_mul, mul_eq_zero] at hcross
      exact hcross.elim hn.ne' hd'.ne'
    have hgrid : gridExponent num den = gridExponent num' den' := by
      rw [gridExponent, gridExponent, floorLog2_eq_log hn hd, floorLog2_eq_log hn' hd', h]
    have hround : ∀ a b : Nat, 0 < a → 0 < b →
        halfEven (num * a) (den * b) = halfEven (num' * a) (den' * b) := by
      intro a b ha hb
      refine halfEven_congr (by positivity) (by positivity) ?_
      rw [mul_mul_mul_comm, hcross, mul_mul_mul_comm]
    simp only [nearestBits, if_neg hn.ne', if_neg hn'.ne', hgrid, Nat.pow_eq]
    rw [hround _ _ (by positivity) (by positivity)]

/-! ### Numbers taken from doubles -/

namespace Binary

variable {b : Binary} {x : Float}

/-- The absolute value of the number. -/
def magnitude (b : Binary) : ℚ :=
  b.mantissa * 2 ^ b.exponent

theorem denominator_pos (b : Binary) : 0 < b.denominator :=
  Nat.pow_pos two_pos

theorem numerator_div_denominator (b : Binary) :
    (b.numerator : ℚ) / b.denominator = b.magnitude := by
  rw [magnitude, zpow_eq_pow_div_pow, mul_div_assoc']
  simp [numerator, denominator]

/-- The form in which a finite double is taken apart: the mantissa has as many bits as the format
allows, or the exponent is the least one. -/
structure Canonical (b : Binary) : Prop where
  mantissa_lt : b.mantissa < 2 * fieldUnit
  exponent_ge : minExponent ≤ b.exponent
  exponent_le : b.exponent ≤ fieldCount - 3 + minExponent
  leading : fieldUnit ≤ b.mantissa ∨ b.exponent = minExponent

/-- The place of the absolute value among the bit patterns. -/
def bits (b : Binary) : Nat :=
  b.mantissa + (b.exponent - minExponent).toNat * fieldUnit

theorem Canonical.bits_le (hb : b.Canonical) : b.bits ≤ infinityBits := by
  obtain ⟨hm, hl, hu, -⟩ := hb
  simp only [bits, infinityBits, fieldUnit, fieldCount, minExponent] at *
  omega

theorem canonical_ofFloat (hx : x.isFinite) : (ofFloat x).Canonical := by
  obtain ⟨hm, hl, -⟩ := ofFloat_bounds x
  have hbits := (isFinite_iff x).mp hx
  rw [magnitudeBits, mod_signUnit] at hbits
  refine ⟨hm, hl, ?_, ?_⟩
  · simp only [ofFloat, infinityBits, fieldUnit, fieldCount] at *
    omega
  · simp only [ofFloat]
    split_ifs with h
    · exact .inr (by rw [h]; rfl)
    · exact .inl (Nat.le_add_right _ _)

theorem bits_ofFloat (x : Float) : (ofFloat x).bits = magnitudeBits x := by
  rw [magnitudeBits, mod_signUnit]
  simp only [bits, ofFloat, add_sub_cancel_right, Int.toNat_natCast]
  split_ifs with h
  · rw [h]
    simp
  · obtain ⟨k, hk⟩ := Nat.exists_eq_succ_of_ne_zero h
    rw [hk, Nat.succ_mul, Nat.succ_sub_one]
    ring

/-- The grid of a canonical number is that of its own mantissa. -/
theorem Canonical.gridExponent_eq (hb : b.Canonical) (hpos : 0 < b.mantissa) :
    gridExponent b.numerator b.denominator = b.exponent := by
  have hnum : 0 < b.numerator := Nat.mul_pos hpos (Nat.pow_pos two_pos)
  have hle : (2 : ℚ) ^ b.mantissa.log2 ≤ b.mantissa := by
    exact_mod_cast Nat.log2_self_le hpos.ne'
  have hlt : (b.mantissa : ℚ) < 2 ^ (b.mantissa.log2 + 1) := by
    exact_mod_cast Nat.lt_log2_self
  have hlog : floorLog2 b.numerator b.denominator = b.mantissa.log2 + b.exponent := by
    rw [floorLog2_eq_log hnum b.denominator_pos, numerator_div_denominator, magnitude]
    refine log_eq_of_bounds ?_ ?_
    · rw [zpow_add₀ two_ne_zero, zpow_natCast]
      gcongr
    · rw [add_right_comm, zpow_add₀ two_ne_zero]
      exact mul_lt_mul_of_pos_right (by exact_mod_cast hlt) (by positivity)
  have hmax : b.mantissa.log2 < 53 := (Nat.log2_lt hpos.ne').mpr hb.mantissa_lt
  have hmin := hb.exponent_ge
  rw [gridExponent, hlog]
  rcases hb.leading with h | h
  · have hlead : 52 ≤ b.mantissa.log2 := (Nat.le_log2 hpos.ne').mpr h
    omega
  · omega

/-- A canonical number is rounded to its own place. -/
theorem Canonical.nearestBits_eq (hb : b.Canonical) :
    nearestBits b.numerator b.denominator = b.bits := by
  rcases Nat.eq_zero_or_pos b.mantissa with h | hpos
  · have hexp : b.exponent = minExponent :=
      hb.leading.resolve_left (by rw [h]; decide)
    simp [nearestBits, numerator, bits, h, hexp]
  · have hnum : b.numerator ≠ 0 := (Nat.mul_pos hpos (Nat.pow_pos two_pos)).ne'
    simp only [nearestBits, if_neg hnum, hb.gridExponent_eq hpos]
    have hround : halfEven (b.numerator * Nat.pow 2 (-b.exponent).toNat)
        (b.denominator * Nat.pow 2 b.exponent.toNat) = b.mantissa := by
      rw [numerator, denominator, mul_assoc, mul_comm (Nat.pow 2 b.exponent.toNat)]
      exact halfEven_mul_self _ (by simp only [Nat.pow_eq]; positivity)
    rw [hround]
    exact min_eq_left hb.bits_le

end Binary

/-! ### The nearest double -/

variable {negative : Bool}

theorem nearestBits_le (num den : Nat) : nearestBits num den ≤ infinityBits := by
  simp only [nearestBits]
  split_ifs
  · exact Nat.zero_le _
  · exact Nat.min_le_right _ _

theorem toNat_toBits_nearest (negative : Bool) (num den : Nat) :
    (nearest negative num den).toBits.toNat =
      nearestBits num den + if negative then signUnit else 0 := by
  have hle := nearestBits_le num den
  have hsign : (if negative then signUnit else 0) = 0 ∨
      (if negative then signUnit else 0) = signUnit := by
    cases negative <;> simp
  simp only [infinityBits, fieldUnit, fieldCount, signUnit] at hle hsign
  have hbits : (UInt64.ofNat (nearestBits num den + if negative then signUnit else 0)).toNat =
      nearestBits num den + if negative then signUnit else 0 := by
    rw [UInt64.toNat_ofNat']
    simp only [signUnit]
    omega
  rw [nearest, toBits_ofBits, hbits]
  rw [hbits]
  simp only [signUnit, infinityBits, fieldUnit, fieldCount]
  omega

@[simp] theorem magnitudeBits_nearest (negative : Bool) (num den : Nat) :
    magnitudeBits (nearest negative num den) = nearestBits num den := by
  have hle := nearestBits_le num den
  rw [magnitudeBits, toNat_toBits_nearest]
  simp only [infinityBits, fieldUnit, fieldCount] at hle
  split_ifs <;> simp only [signUnit] <;> omega

@[simp] theorem negative_nearest (negative : Bool) (num den : Nat) :
    (Binary.ofFloat (nearest negative num den)).negative = negative := by
  have hle := nearestBits_le num den
  rw [Binary.ofFloat, toNat_toBits_nearest]
  simp only [infinityBits, fieldUnit, fieldCount] at hle
  cases negative <;> simp [signUnit]
  omega

/-- Rounding gives a number or an infinity. -/
theorem isNaN_nearest (negative : Bool) (num den : Nat) :
    (nearest negative num den).isNaN = false := by
  rw [← Bool.not_eq_true, isNaN_iff, magnitudeBits_nearest, not_lt]
  exact nearestBits_le num den

/-- A fraction with the absolute value of a double rounds to this double. -/
theorem nearest_eq_of_magnitude {x : Float} (hx : x.isFinite) (hd : 0 < den)
    (h : (num : ℚ) / den = (Binary.ofFloat x).magnitude) :
    nearest (Binary.ofFloat x).negative num den = x := by
  refine eq_of_magnitudeBits (negative_nearest _ _ _) ?_
  rw [← Binary.numerator_div_denominator] at h
  rw [magnitudeBits_nearest, nearestBits_congr hd (Binary.denominator_pos _) h,
    (Binary.canonical_ofFloat hx).nearestBits_eq, Binary.bits_ofFloat]

end PixelMath
