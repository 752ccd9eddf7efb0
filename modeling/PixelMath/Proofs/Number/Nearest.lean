import PixelMath.Proofs.Number.Rounding

/-!
# The nearest double

Rounding a fraction is taken apart into two steps. The fraction is first rounded to a mantissa of
53 bits with an exponent of any size, where no other such number is nearer and a tie goes to the
even mantissa. A number that has a place among the finite doubles is then the double with this
place, and a number past the largest one is infinite.

## Main definitions

* `IsHalfEven` — a whole number nearest to a fraction, with ties to even.
* `Binary.Normal` — the numbers of 53 mantissa bits, with an exponent as large as is needed.
* `Binary.IsRounding` — a number of this form nearest to a fraction, with ties to even.
* `Binary.rounded` — the number that a fraction is rounded to.

## Main results

* `Binary.isRounding_rounded` — the rounded number is nearest to the fraction.
* `nearestBits_eq_min` — the bits of the nearest double are the place of the rounded number.
* `isFinite_nearest_iff`, `ofFloat_nearest`, `isInf_nearest_iff` — the nearest double is the
  rounded number, or infinite where this exceeds every finite double.
* `nearestBits_of_lt`, `nearestBits_of_le` — fractions that round to zero or to infinity.
-/

namespace PixelMath

/-! ### Whole numbers near a fraction -/

/-- A whole number nearest to `t`, which is even where `t` lies in the middle of two. -/
structure IsHalfEven (t : ℚ) (m : Nat) : Prop where
  le_half : |t - m| ≤ 1 / 2
  even : |t - m| = 1 / 2 → Even m

/-- A fraction as its whole part and the part behind the point. -/
theorem ratio_eq_div_add_mod (n : Nat) {d : Nat} (hd : 0 < d) :
    (n : ℚ) / d = (n / d : Nat) + ((n % d : Nat) : ℚ) / d := by
  have hdq : (d : ℚ) ≠ 0 := by exact_mod_cast hd.ne'
  rw [eq_comm, eq_div_iff hdq, add_mul, div_mul_cancel₀ _ hdq]
  exact_mod_cast Nat.div_add_mod' n d

theorem isHalfEven_halfEven (n : Nat) {d : Nat} (hd : 0 < d) :
    IsHalfEven ((n : ℚ) / d) (halfEven n d) := by
  have hdq : (0 : ℚ) < d := by exact_mod_cast hd
  rw [ratio_eq_div_add_mod n hd]
  obtain ⟨f, hf⟩ : ∃ f : ℚ, ((n % d : Nat) : ℚ) / d = f := ⟨_, rfl⟩
  have hnonneg : 0 ≤ f := hf ▸ by positivity
  have hlt : f < 1 := by
    rw [← hf, div_lt_one hdq]
    exact_mod_cast Nat.mod_lt n hd
  -- where the remainder stands to half of the denominator
  have hle : f ≤ 1 / 2 ↔ 2 * (n % d) ≤ d := by
    rw [← hf, div_le_div_iff₀ hdq two_pos, one_mul, mul_comm]
    exact_mod_cast Iff.rfl
  have hge : 1 / 2 ≤ f ↔ d ≤ 2 * (n % d) := by
    rw [← hf, div_le_div_iff₀ two_pos hdq, one_mul, mul_comm _ (2 : ℚ)]
    exact_mod_cast Iff.rfl
  have hmiddle (h : f = 1 / 2) : 2 * (n % d) = d := le_antisymm (hle.mp h.le) (hge.mp h.ge)
  rw [hf]
  simp only [halfEven]
  split_ifs with h
  · have hbelow : |((n / d : Nat) : ℚ) + f - (n / d : Nat)| = f := by
      rw [add_sub_cancel_left, abs_of_nonneg hnonneg]
    refine ⟨hbelow.trans_le (hle.mpr (h.elim le_of_lt fun h => h.1.le)), fun htie => ?_⟩
    have heq := hmiddle (hbelow.symm.trans htie)
    exact Nat.even_iff.mpr (h.resolve_left heq.not_lt).2
  · have habove : |((n / d : Nat) : ℚ) + f - (n / d + 1 : Nat)| = 1 - f := by
      rw [Nat.cast_add_one, add_sub_add_left_eq_sub, abs_sub_comm, abs_of_pos (sub_pos.mpr hlt)]
    rw [not_or, not_lt] at h
    have hhalf := hge.mpr h.1
    refine ⟨habove.trans_le (by linarith), fun htie => ?_⟩
    have heq := hmiddle (by linarith [habove.symm.trans htie])
    exact Nat.even_add_one.mpr fun heven => h.2 ⟨heq, Nat.even_iff.mp heven⟩

namespace IsHalfEven

variable {t : ℚ} {m k : Nat}

/-- Two whole numbers are one apart at least, so another one is no nearer. -/
theorem half_le_abs_sub (h : IsHalfEven t m) (hk : k ≠ m) : 1 / 2 ≤ |t - k| := by
  have hone : (1 : ℚ) ≤ |(m : ℚ) - k| := by
    have hne : (m : Int) - k ≠ 0 := by omega
    exact_mod_cast Int.one_le_abs hne
  have htriangle : |(m : ℚ) - k| ≤ |m - t| + |t - k| := abs_sub_le _ _ _
  rw [abs_sub_comm (m : ℚ) t] at htriangle
  linarith [h.le_half]

theorem nearest (h : IsHalfEven t m) (k : Nat) : |t - m| ≤ |t - k| := by
  by_cases hk : k = m
  · rw [hk]
  · exact h.le_half.trans (h.half_le_abs_sub hk)

theorem even_of_tie (h : IsHalfEven t m) (hk : k ≠ m) (htie : |t - k| = |t - m|) : Even m :=
  h.even (le_antisymm h.le_half (htie ▸ h.half_le_abs_sub hk))

theorem le_of_le (h : IsHalfEven t m) (ht : (k : ℚ) ≤ t) : k ≤ m := by
  by_contra hlt
  have hsucc : (m : ℚ) + 1 ≤ k := by exact_mod_cast not_le.mp hlt
  linarith [(le_abs_self (t - m)).trans h.le_half]

theorem le_of_ge (h : IsHalfEven t m) (ht : t ≤ k) : m ≤ k := by
  by_contra hlt
  have hsucc : (k : ℚ) + 1 ≤ m := by exact_mod_cast not_le.mp hlt
  linarith [(neg_le_abs (t - m)).trans h.le_half]

end IsHalfEven

/-! ### Numbers of 53 bits -/

namespace Binary

variable {b c : Binary} {q : ℚ} {e : Int} {m : Nat}

theorem fieldUnit_pos : 0 < fieldUnit := by
  decide

theorem even_fieldUnit : Even fieldUnit :=
  ⟨fieldUnit / 2, by decide⟩

theorem cast_fieldUnit : ((fieldUnit : Nat) : ℚ) = 2 ^ (52 : Int) := by
  norm_num [fieldUnit]

/-- The form of a number of 53 mantissa bits with an exponent as large as is needed: the first bit
is set, or the exponent is the least one. -/
structure Normal (b : Binary) : Prop where
  mantissa_lt : b.mantissa < 2 * fieldUnit
  exponent_ge : minExponent ≤ b.exponent
  leading : fieldUnit ≤ b.mantissa ∨ b.exponent = minExponent

theorem Canonical.normal (hb : b.Canonical) : b.Normal :=
  ⟨hb.mantissa_lt, hb.exponent_ge, hb.leading⟩

theorem normal_zero : Normal ⟨false, 0, minExponent⟩ :=
  ⟨by decide, le_rfl, .inr rfl⟩

theorem Normal.canonical_iff (hb : b.Normal) : b.Canonical ↔ b.bits < infinityBits := by
  obtain ⟨hm, he, hl⟩ := hb
  have hexponent : b.exponent ≤ fieldCount - 3 + minExponent ↔ b.bits < infinityBits := by
    simp only [bits, infinityBits, fieldUnit, fieldCount, minExponent] at *
    omega
  exact ⟨fun h => hexponent.mp h.exponent_le, fun h => ⟨hm, he, hexponent.mpr h, hl⟩⟩

/-- A number is known by its place and its sign. -/
theorem Normal.eq_of_bits (hb : b.Normal) (hc : c.Normal) (hs : b.negative = c.negative)
    (h : b.bits = c.bits) : b = c := by
  obtain ⟨hm, he, hl⟩ := hb
  obtain ⟨hm', he', hl'⟩ := hc
  have hparts : b.mantissa = c.mantissa ∧ b.exponent = c.exponent := by
    simp only [bits, fieldUnit, minExponent] at *
    omega
  cases b
  cases c
  cases hs
  cases hparts.1
  cases hparts.2
  rfl

/-! ### The range of the finite doubles -/

theorem magnitude_nonneg (b : Binary) : 0 ≤ b.magnitude := by
  rw [magnitude]
  positivity

theorem magnitude_of_mantissa_eq_zero (h : b.mantissa = 0) : b.magnitude = 0 := by
  simp [magnitude, h]

theorem magnitude_zero : magnitude ⟨false, 0, minExponent⟩ = 0 :=
  magnitude_of_mantissa_eq_zero rfl

theorem Normal.le_magnitude (hb : b.Normal) (hpos : 0 < b.mantissa) :
    (2 : ℚ) ^ minExponent ≤ b.magnitude := by
  have hone : (1 : ℚ) ≤ b.mantissa := by exact_mod_cast hpos
  calc (2 : ℚ) ^ minExponent ≤ 2 ^ b.exponent := zpow_le_zpow_right₀ (by norm_num) hb.exponent_ge
    _ = 1 * 2 ^ b.exponent := (one_mul _).symm
    _ ≤ b.magnitude := by
      rw [magnitude]
      gcongr

theorem Canonical.magnitude_lt (hb : b.Canonical) : b.magnitude < (2 : ℚ) ^ (1024 : Int) := by
  have hm : (b.mantissa : ℚ) < 2 ^ (53 : Int) := by exact_mod_cast hb.mantissa_lt
  have he : b.exponent ≤ 971 := hb.exponent_le
  calc b.magnitude < 2 ^ (53 : Int) * 2 ^ b.exponent :=
        mul_lt_mul_of_pos_right hm (by positivity)
    _ ≤ 2 ^ (53 : Int) * 2 ^ (971 : Int) := by
        gcongr
        norm_num
    _ = 2 ^ (1024 : Int) := by rw [← zpow_add₀ two_ne_zero]; norm_num

/-- A number with an exponent past those of the doubles lies above all of them. -/
theorem Normal.le_magnitude_of_not_canonical (hb : b.Normal) (h : ¬ b.Canonical) :
    (2 : ℚ) ^ (1024 : Int) ≤ b.magnitude := by
  have he : 972 ≤ b.exponent := by
    by_contra hlt
    exact h ⟨hb.mantissa_lt, hb.exponent_ge, Int.lt_add_one_iff.mp (not_le.mp hlt), hb.leading⟩
  have hm : (2 : ℚ) ^ (52 : Int) ≤ b.mantissa := by
    have hlead : fieldUnit ≤ b.mantissa := by
      refine hb.leading.resolve_right fun hmin => ?_
      rw [hmin] at he
      exact absurd he (by decide)
    exact_mod_cast hlead
  calc (2 : ℚ) ^ (1024 : Int) = 2 ^ (52 : Int) * 2 ^ (972 : Int) := by
        rw [← zpow_add₀ two_ne_zero]; norm_num
    _ ≤ b.mantissa * 2 ^ b.exponent := by
        gcongr
        norm_num

/-- The least power of two past the doubles. -/
theorem normal_overflow : Normal ⟨false, fieldUnit, 972⟩ :=
  ⟨by decide, by decide, .inl le_rfl⟩

theorem magnitude_overflow : magnitude ⟨false, fieldUnit, 972⟩ = (2 : ℚ) ^ (1024 : Int) := by
  rw [magnitude, cast_fieldUnit, ← zpow_add₀ two_ne_zero]
  norm_num

/-! ### Numbers and powers of two -/

/-- A number is a multiple of a power of two, or so small that its mantissa ends below it. -/
theorem Normal.multiple_or_lt (hc : c.Normal) (e : Int) :
    (∃ k : Nat, c.magnitude = k * 2 ^ e) ∨
      (c.exponent < e ∧ c.magnitude < (fieldUnit : Nat) * 2 ^ e) := by
  rcases le_or_gt e c.exponent with h | h
  · obtain ⟨n, hn⟩ := Int.eq_ofNat_of_zero_le (sub_nonneg.mpr h)
    refine .inl ⟨c.mantissa * 2 ^ n, ?_⟩
    rw [magnitude, ← sub_add_cancel c.exponent e, hn, zpow_add₀ two_ne_zero]
    push_cast
    rw [zpow_natCast, mul_assoc]
  · refine .inr ⟨h, ?_⟩
    have hm : (c.mantissa : ℚ) < 2 * (fieldUnit : Nat) := by exact_mod_cast hc.mantissa_lt
    calc c.magnitude < 2 * (fieldUnit : Nat) * 2 ^ c.exponent :=
          mul_lt_mul_of_pos_right hm (by positivity)
      _ = (fieldUnit : Nat) * 2 ^ (c.exponent + 1) := by
          rw [zpow_add₀ two_ne_zero, zpow_one]
          ring
      _ ≤ (fieldUnit : Nat) * 2 ^ e := by
          gcongr
          · norm_num
          · omega

/-! ### Nearest numbers -/

/-- A number of 53 mantissa bits nearest to `q`, whose mantissa is even where another one is as
near. -/
structure IsRounding (b : Binary) (q : ℚ) : Prop where
  normal : b.Normal
  nearest : ∀ c : Binary, c.Normal → |q - b.magnitude| ≤ |q - c.magnitude|
  even_of_tie : ∀ c : Binary, c.Normal → c.magnitude ≠ b.magnitude →
    |q - c.magnitude| = |q - b.magnitude| → Even b.mantissa

/-- The number `m · 2 ^ e`, where a mantissa of more than 53 bits carries over into the exponent. -/
def carried (m : Nat) (e : Int) : Binary :=
  if m < 2 * fieldUnit then ⟨false, m, e⟩ else ⟨false, fieldUnit, e + 1⟩

theorem normal_carried (he : minExponent ≤ e) (hl : fieldUnit ≤ m ∨ e = minExponent) :
    (carried m e).Normal := by
  rw [carried]
  split_ifs with h
  · exact ⟨h, he, hl⟩
  · exact ⟨lt_two_mul_self fieldUnit_pos, Int.le_add_one he, .inl le_rfl⟩

theorem bits_carried (he : minExponent ≤ e) (hm : m ≤ 2 * fieldUnit) :
    (carried m e).bits = m + (e - minExponent).toNat * fieldUnit := by
  rw [carried]
  split_ifs with h
  · rfl
  · simp only [bits, fieldUnit, minExponent] at *
    omega

theorem magnitude_carried (hm : m ≤ 2 * fieldUnit) : (carried m e).magnitude = m * 2 ^ e := by
  rw [carried]
  split_ifs with h
  · rfl
  · obtain rfl : m = 2 * fieldUnit := le_antisymm hm (not_lt.mp h)
    rw [magnitude, zpow_add₀ two_ne_zero, zpow_one]
    push_cast
    ring

theorem even_mantissa_carried (h : Even m) : Even (carried m e).mantissa := by
  rw [carried]
  split_ifs
  · exact h
  · exact even_fieldUnit

theorem abs_sub_mul_zpow (q x : ℚ) (e : Int) :
    |q - x * 2 ^ e| = |q / 2 ^ e - x| * 2 ^ e := by
  have hpow : (0 : ℚ) < 2 ^ e := by positivity
  calc |q - x * 2 ^ e| = |(q / 2 ^ e - x) * 2 ^ e| := by
        rw [sub_mul, div_mul_cancel₀ _ hpow.ne']
    _ = |q / 2 ^ e - x| * 2 ^ e := by rw [abs_mul, abs_of_pos hpow]

/-- A nearest multiple of a power of two is a nearest number, if the multiples near it use all the
bits of the mantissa. -/
theorem isRounding_carried (he : minExponent ≤ e) (hm : IsHalfEven (q / 2 ^ e) m)
    (hu : q / 2 ^ e ≤ (2 * fieldUnit : Nat))
    (hl : ((fieldUnit : Nat) : ℚ) ≤ q / 2 ^ e ∨ e = minExponent) :
    (carried m e).IsRounding q := by
  have hpow : (0 : ℚ) < 2 ^ e := by positivity
  have hmagnitude : (carried m e).magnitude = m * 2 ^ e := magnitude_carried (hm.le_of_ge hu)
  -- any other number is a multiple as well, or lies below all of those with a full mantissa
  have hother : ∀ c : Binary, c.Normal →
      (∃ k : Nat, c.magnitude = k * 2 ^ e) ∨ |q - m * 2 ^ e| < |q - c.magnitude| := by
    intro c hc
    refine (hc.multiple_or_lt e).imp_right fun ⟨hlt, hsmall⟩ => ?_
    have hfull : (fieldUnit : Nat) ≤ q / 2 ^ e :=
      hl.resolve_right (hc.exponent_ge.trans_lt hlt).ne'
    have hle : (fieldUnit : Nat) * 2 ^ e ≤ q := (le_div_iff₀ hpow).mp hfull
    calc |q - m * 2 ^ e| ≤ |q - (fieldUnit : Nat) * 2 ^ e| := by
          rw [abs_sub_mul_zpow, abs_sub_mul_zpow]
          exact mul_le_mul_of_nonneg_right (hm.nearest _) hpow.le
      _ = q - (fieldUnit : Nat) * 2 ^ e := abs_of_nonneg (sub_nonneg.mpr hle)
      _ < q - c.magnitude := by linarith
      _ ≤ |q - c.magnitude| := le_abs_self _
  refine ⟨normal_carried he (hl.imp_left hm.le_of_le), fun c hc => ?_, fun c hc hne htie => ?_⟩
  · rw [hmagnitude]
    rcases hother c hc with ⟨k, hk⟩ | hlt
    · rw [hk, abs_sub_mul_zpow, abs_sub_mul_zpow]
      exact mul_le_mul_of_nonneg_right (hm.nearest k) hpow.le
    · exact hlt.le
  · rw [hmagnitude] at hne htie
    rcases hother c hc with ⟨k, hk⟩ | hlt
    · rw [hk, abs_sub_mul_zpow, abs_sub_mul_zpow, mul_left_inj' hpow.ne'] at htie
      refine even_mantissa_carried (hm.even_of_tie (fun hkm => hne ?_) htie)
      rw [hk, hkm]
    · exact absurd htie hlt.ne'

/-! ### Rounding a fraction to 53 bits -/

variable {num den : Nat}

/-- The fraction `num / den` rounded to 53 bits, with an exponent as large as is needed. -/
def rounded (num den : Nat) : Binary :=
  if num = 0 then ⟨false, 0, minExponent⟩
  else
    let e := gridExponent num den
    carried (halfEven (num * Nat.pow 2 (-e).toNat) (den * Nat.pow 2 e.toNat)) e

/-- The fraction in units of a power of two. -/
theorem scaled_ratio (num den : Nat) (e : Int) :
    ((num * Nat.pow 2 (-e).toNat : Nat) : ℚ) / (den * Nat.pow 2 e.toNat : Nat) =
      (num : ℚ) / den / 2 ^ e := by
  rw [zpow_eq_pow_div_pow, div_div_div_eq]
  simp

/-- In units of its grid a fraction has 53 bits before the point, unless it is smaller than all
numbers with so many bits. -/
theorem scaled_bounds (hn : 0 < num) (hd : 0 < den) :
    (num : ℚ) / den / 2 ^ gridExponent num den ≤ (2 * fieldUnit : Nat) ∧
      (((fieldUnit : Nat) : ℚ) ≤ (num : ℚ) / den / 2 ^ gridExponent num den ∨
        gridExponent num den = minExponent) := by
  have hnq : (0 : ℚ) < num := by exact_mod_cast hn
  have hdq : (0 : ℚ) < den := by exact_mod_cast hd
  have hq : (0 : ℚ) < (num : ℚ) / den := div_pos hnq hdq
  have hlow : (2 : ℚ) ^ floorLog2 num den ≤ (num : ℚ) / den := by
    rw [floorLog2_eq_log hn hd]
    exact_mod_cast Int.zpow_log_le_self (b := 2) (by decide) hq
  have hhigh : (num : ℚ) / den < 2 ^ (floorLog2 num den + 1) := by
    rw [floorLog2_eq_log hn hd]
    exact_mod_cast Int.lt_zpow_succ_log_self (b := 2) (by decide) ((num : ℚ) / den)
  constructor
  · rw [div_le_iff₀ (by positivity)]
    calc (num : ℚ) / den ≤ 2 ^ (floorLog2 num den + 1) := hhigh.le
      _ ≤ 2 ^ (53 + gridExponent num den) := by
          refine zpow_le_zpow_right₀ (by norm_num) ?_
          rw [gridExponent]
          omega
      _ = (2 * fieldUnit : Nat) * 2 ^ gridExponent num den := by
          rw [zpow_add₀ two_ne_zero]
          push_cast
          rw [cast_fieldUnit]
          norm_num
  · rcases eq_or_ne (gridExponent num den) minExponent with h | h
    · exact .inr h
    · left
      have hgrid : gridExponent num den = floorLog2 num den - 52 := by
        rw [gridExponent] at h ⊢
        omega
      rw [le_div_iff₀ (by positivity), cast_fieldUnit, ← zpow_add₀ two_ne_zero, hgrid,
        add_sub_cancel]
      exact hlow

theorem minExponent_le_gridExponent (num den : Nat) : minExponent ≤ gridExponent num den :=
  le_max_left _ _

/-- What a fraction is rounded to on its own grid. -/
theorem isHalfEven_grid (num : Nat) (hd : 0 < den) (e : Int) :
    IsHalfEven ((num : ℚ) / den / 2 ^ e)
      (halfEven (num * Nat.pow 2 (-e).toNat) (den * Nat.pow 2 e.toNat)) := by
  rw [← scaled_ratio]
  exact isHalfEven_halfEven _ (Nat.mul_pos hd (Nat.pow_pos two_pos))

/-- **Rounding is correct.** No number of 53 bits is nearer to a fraction than the one that it is
rounded to, and a tie goes to an even mantissa. -/
theorem isRounding_rounded (num : Nat) (hd : 0 < den) :
    (rounded num den).IsRounding ((num : ℚ) / den) := by
  rcases Nat.eq_zero_or_pos num with rfl | hn
  · rw [rounded, if_pos rfl]
    refine ⟨normal_zero, fun c _ => ?_, fun _ _ _ _ => ⟨0, rfl⟩⟩
    simpa [magnitude] using c.magnitude_nonneg
  · rw [rounded, if_neg hn.ne']
    obtain ⟨hu, hl⟩ := scaled_bounds hn hd
    exact isRounding_carried (minExponent_le_gridExponent _ _) (isHalfEven_grid num hd _) hu hl

end Binary

/-! ### The nearest double -/

section Nearest

open Binary

variable {num den : Nat} {negative : Bool}

/-- The bits of the nearest double are the place of the rounded number, or those of infinity. -/
theorem nearestBits_eq_min (num : Nat) (hd : 0 < den) :
    nearestBits num den = min (rounded num den).bits infinityBits := by
  rcases Nat.eq_zero_or_pos num with rfl | hn
  · simp [nearestBits, rounded, bits]
  · simp only [nearestBits, rounded, if_neg hn.ne']
    rw [bits_carried (minExponent_le_gridExponent _ _)
      ((isHalfEven_grid num hd _).le_of_ge (scaled_bounds hn hd).1)]

theorem isFinite_nearest_iff (negative : Bool) (num : Nat) (hd : 0 < den) :
    (nearest negative num den).isFinite ↔ (rounded num den).Canonical := by
  rw [isFinite_iff, magnitudeBits_nearest, nearestBits_eq_min num hd,
    (isRounding_rounded num hd).normal.canonical_iff]
  omega

/-- A finite nearest double is the rounded number with its sign. -/
theorem ofFloat_nearest (hd : 0 < den) (hfinite : (nearest negative num den).isFinite) :
    ofFloat (nearest negative num den) = { rounded num den with negative } := by
  have hcanonical := (isFinite_nearest_iff negative num hd).mp hfinite
  have hnormal := hcanonical.normal
  refine (canonical_ofFloat hfinite).normal.eq_of_bits ?_ (negative_nearest _ _ _) ?_
  · exact ⟨hnormal.mantissa_lt, hnormal.exponent_ge, hnormal.leading⟩
  · rw [bits_ofFloat, magnitudeBits_nearest, nearestBits_eq_min num hd]
    exact min_eq_left (hnormal.canonical_iff.mp hcanonical).le

/-- The nearest double is infinite where the rounded number exceeds every finite double. -/
theorem isInf_nearest_iff (negative : Bool) (num : Nat) (hd : 0 < den) :
    (nearest negative num den).isInf ↔
      ∀ y : Float, y.isFinite → (ofFloat y).magnitude < (rounded num den).magnitude := by
  have hnormal := (isRounding_rounded num hd).normal
  constructor
  · intro hinf y hy
    have hcanonical : ¬ (rounded num den).Canonical := by
      rw [← isFinite_nearest_iff negative num hd, isFinite_iff, (isInf_iff _).mp hinf]
      exact lt_irrefl _
    exact (canonical_ofFloat hy).magnitude_lt.trans_le
      (hnormal.le_magnitude_of_not_canonical hcanonical)
  · intro h
    by_contra hinf
    have hfinite := isFinite_of_not_isInf (isNaN_nearest negative num den) hinf
    have hlt := h _ hfinite
    rw [ofFloat_nearest hd hfinite] at hlt
    exact lt_irrefl _ hlt

/-- A fraction below half the smallest double rounds to zero. -/
theorem nearestBits_of_lt (hd : 0 < den) (h : (num : ℚ) / den < 2 ^ (minExponent - 1)) :
    nearestBits num den = 0 := by
  have hround := isRounding_rounded num hd
  have hnonneg : (0 : ℚ) ≤ (num : ℚ) / den := by positivity
  have hle : (rounded num den).magnitude ≤ 2 * ((num : ℚ) / den) := by
    have hzero := hround.nearest _ normal_zero
    rw [magnitude_zero, sub_zero, abs_of_nonneg hnonneg] at hzero
    linarith [neg_le_abs ((num : ℚ) / den - (rounded num den).magnitude)]
  have hlt : (rounded num den).magnitude < 2 ^ minExponent :=
    calc (rounded num den).magnitude ≤ 2 * ((num : ℚ) / den) := hle
      _ < 2 * 2 ^ (minExponent - 1) := by gcongr
      _ = 2 ^ minExponent := by rw [zpow_sub_one₀ two_ne_zero]; ring
  have hmantissa : (rounded num den).mantissa = 0 := by
    by_contra hne
    exact absurd (hround.normal.le_magnitude (Nat.pos_of_ne_zero hne)) hlt.not_ge
  have hexponent : (rounded num den).exponent = minExponent := by
    refine hround.normal.leading.resolve_left ?_
    rw [hmantissa]
    exact fieldUnit_pos.not_ge
  rw [nearestBits_eq_min num hd, bits, hmantissa, hexponent]
  simp

/-- A fraction past the last exponent of a double rounds to infinity. -/
theorem nearestBits_of_le (hd : 0 < den) (h : (2 : ℚ) ^ (1024 : Int) ≤ (num : ℚ) / den) :
    nearestBits num den = infinityBits := by
  have hround := isRounding_rounded num hd
  have hle : (2 : ℚ) ^ (1024 : Int) ≤ (rounded num den).magnitude := by
    have hpower := hround.nearest _ normal_overflow
    rw [magnitude_overflow, abs_of_nonneg (sub_nonneg.mpr h)] at hpower
    linarith [le_abs_self ((num : ℚ) / den - (rounded num den).magnitude)]
  have hcanonical : ¬ (rounded num den).Canonical := fun hc => absurd hle hc.magnitude_lt.not_ge
  rw [hround.normal.canonical_iff, not_lt] at hcanonical
  rw [nearestBits_eq_min num hd, min_eq_right hcanonical]

theorem nearestBits_pow {k : Nat} (h : 1024 ≤ k) : nearestBits (Nat.pow 2 k) 1 = infinityBits := by
  refine nearestBits_of_le one_pos ?_
  rw [Nat.pow_eq, Nat.cast_pow, Nat.cast_ofNat, Nat.cast_one, div_one, ← zpow_natCast]
  exact zpow_le_zpow_right₀ (by norm_num) (by exact_mod_cast h)

end Nearest

end PixelMath
