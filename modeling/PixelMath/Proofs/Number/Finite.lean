import PixelMath.Proofs.Number.Layout

/-!
# Finite sums and quotients

A double becomes infinite where its exponent does not fit the format. Rounding moves the exponent by
little: it is at most one above the exponent that the leading bit asks for, or the one that was
there. So the sum of two doubles of small exponents is finite, and so is a quotient if the exponents
do not lie too far apart. Doubles that are compared have exponents in the same order.

## Main definitions

* `IsBounded` — numbers with a bounded exponent.

## Main results

* `isBounded_roundWithAccuracy` — rounding moves the exponent by little.
* `isFinite_add`, `isFinite_div` — sums and quotients that are finite.
* `exponent_le_of_not_lt` — exponents of doubles that are compared.
-/

namespace PixelMath

open Float.Model Float.Model.UnpackedFloat

/-- A finite number with the mantissa of a double and an exponent of at most `bound`. -/
def IsBounded (bound : Int) : UnpackedFloat → Prop
  | .zero _ => True
  | .finite _ m e _ => m < 2 ^ 53 ∧ e ≤ bound
  | .infinity _ | .notANumber => False

/-! ### Rounding -/

section Rounding

theorem binary64_targetExponent (t : Int) :
    Format.binary64.targetExponent t = max (t - 53) minExponent := by
  simp only [Format.targetExponent]
  rfl

theorem mantissa_shiftRight (m : ExtendedMantissa) (k : Nat) :
    (m >>> k).mantissa = m.mantissa / 2 ^ k := by
  induction k with
  | zero => exact (Nat.div_one _).symm
  | succ k ih =>
    change (m >>> k).mantissa / 2 = _
    rw [ih, Nat.div_div_eq_div_mul, Nat.pow_succ]

theorem mantissa_ofMantissaAndAccuracy (m : Nat) (a : Accuracy) :
    (ExtendedMantissa.ofMantissaAndAccuracy m a).mantissa = m := by
  cases a with
  | exact => rfl
  | inexact o => cases o <;> rfl

/-- Rounding adds one at most. -/
theorem roundedMantissa_le (m : ExtendedMantissa) : m.roundedMantissa ≤ m.mantissa + 1 := by
  obtain ⟨m, r, s⟩ := m
  cases r <;> cases s <;>
    simp [ExtendedMantissa.roundedMantissa, ExtendedMantissa.accuracy, Accuracy.roundToNearestEven]
  omega

/-- The exponent of a shifted mantissa is that of the target, or the one that was there. -/
theorem exponent_shiftToTargetExponent (m : Nat) (e : Int) (a : Accuracy) :
    (shiftToTargetExponent .binary64 m e a).2 =
      max e (max ((m.log2 : Int) + 1 + e - 53) minExponent) := by
  simp only [shiftToTargetExponent, shiftToExponent, binary64_targetExponent, totalExponent]
  omega

theorem log2_lt_of_lt {m n : Nat} (hn : 0 < n) (h : m < 2 ^ n) : m.log2 < n := by
  rcases Nat.eq_zero_or_pos m with rfl | hm
  · rwa [Nat.log2_zero]
  · exact (Nat.log2_lt hm.ne').mpr h

theorem shiftLeft_lt {m n : Nat} (h : m < 2 ^ n) (k : Nat) : m <<< k < 2 ^ (n + k) := by
  rw [Nat.shiftLeft_eq, Nat.pow_add]
  exact Nat.mul_lt_mul_of_pos_right h (Nat.two_pow_pos k)

theorem log2_shiftLeft_le (m k : Nat) : (m <<< k).log2 ≤ m.log2 + k := by
  have h := shiftLeft_lt (Nat.lt_log2_self (n := m)) k
  have := log2_lt_of_lt (by omega) h
  omega

theorem mantissa_shiftToTargetExponent_lt (m : Nat) (e : Int) (a : Accuracy) :
    (shiftToTargetExponent .binary64 m e a).1.mantissa < 2 ^ 53 := by
  simp only [shiftToTargetExponent, shiftToExponent, mantissa_shiftRight,
    mantissa_ofMantissaAndAccuracy, binary64_targetExponent, totalExponent]
  generalize hk : (max ((m.log2 : Int) + 1 + e - 53) minExponent - e).toNat = k
  have hle : m.log2 + 1 ≤ 53 + k := by omega
  rw [Nat.div_lt_iff_lt_mul (Nat.two_pow_pos k), ← Nat.pow_add]
  exact Nat.lt_log2_self.trans_le (Nat.pow_le_pow_right (by decide) hle)

variable {bound : Int} (hbound : minExponent ≤ bound) {m : Nat} {e : Int}

include hbound

/-- **Rounding moves the exponent by little.** Where neither the exponent nor that of the leading
bit is too large, the rounded exponent is one above the bound at most. -/
theorem isBounded_roundWithAccuracy (s : Sign) (a : Accuracy) (he : e ≤ bound)
    (hm : (m.log2 : Int) + e ≤ bound + 52) :
    IsBounded (bound + 1) (roundWithAccuracy .binary64 s m e a) := by
  have hfirst : (shiftToTargetExponent .binary64 m e a).2 ≤ bound := by
    rw [exponent_shiftToTargetExponent]
    omega
  have hrounded : (shiftToTargetExponent .binary64 m e a).1.roundedMantissa.log2 < 54 :=
    log2_lt_of_lt (by decide) <| (roundedMantissa_le _).trans_lt <|
      (Nat.succ_lt_succ (mantissa_shiftToTargetExponent_lt m e a)).trans (by decide)
  simp only [roundWithAccuracy]
  split
  · trivial
  · refine ⟨mantissa_shiftToTargetExponent_lt _ _ _, ?_⟩
    rw [exponent_shiftToTargetExponent]
    omega

theorem isBounded_round (s : Sign) (he : e ≤ bound) (hm : (m.log2 : Int) + e ≤ bound + 52) :
    IsBounded (bound + 1) (UnpackedFloat.round .binary64 s m e) := by
  simp only [UnpackedFloat.round, decreaseExponent]
  have hlog := log2_shiftLeft_le m
    (e - Format.binary64.targetExponent (totalExponent m e)).toNat
  exact isBounded_roundWithAccuracy hbound s _ (by omega) (by omega)

theorem isBounded_normalize {m : Int} (zeroSign : Sign) (he : e ≤ bound)
    (hm : (m.natAbs.log2 : Int) + e ≤ bound + 52) :
    IsBounded (bound + 1) (UnpackedFloat.normalize .binary64 m e zeroSign) := by
  simp only [UnpackedFloat.normalize]
  split
  · next h =>
    have hneg : (-m).toNat = m.natAbs := by
      have := Int.compare_eq_lt.mp h
      omega
    exact isBounded_round hbound _ he (hneg ▸ hm)
  · trivial
  · next h =>
    have hpos : m.toNat = m.natAbs := by
      have := Int.compare_eq_gt.mp h
      omega
    exact isBounded_round hbound _ he (hpos ▸ hm)

/-! ### Sums and quotients -/

omit hbound in
theorem natAbs_apply (s : Sign) (m : Nat) : (s.apply m).natAbs = m := by
  cases s <;> simp [Sign.apply]

omit hbound in
/-- The sum of two mantissas that are brought to one exponent. -/
theorem log2_natAbs_add_lt (s₁ s₂ : Sign) {m₁ m₂ : Nat} (h₁ : m₁ < 2 ^ 53) (h₂ : m₂ < 2 ^ 53)
    (k₁ k₂ : Nat) :
    (s₁.apply ↑(m₁ <<< k₁) + s₂.apply ↑(m₂ <<< k₂)).natAbs.log2 < 54 + max k₁ k₂ := by
  have hwide {m : Nat} (h : m < 2 ^ 53) {k : Nat} (hk : k ≤ max k₁ k₂) :
      m <<< k < 2 ^ (53 + max k₁ k₂) :=
    (shiftLeft_lt h k).trans_le (Nat.pow_le_pow_right (by decide) (by omega))
  have hsum := Int.natAbs_add_le (s₁.apply ↑(m₁ <<< k₁)) (s₂.apply ↑(m₂ <<< k₂))
  rw [natAbs_apply, natAbs_apply] at hsum
  have hfirst := hwide h₁ (le_max_left k₁ k₂)
  have hsecond := hwide h₂ (le_max_right k₁ k₂)
  have hdouble : 2 ^ (54 + max k₁ k₂) = 2 * 2 ^ (53 + max k₁ k₂) := by
    rw [← Nat.pow_succ']
    exact congrArg (2 ^ ·) (by omega)
  exact log2_lt_of_lt (by omega) (by omega)

theorem isBounded_add {u v : UnpackedFloat} (hu : IsBounded bound u) (hv : IsBounded bound v) :
    IsBounded (bound + 2) (UnpackedFloat.add .binary64 u v) := by
  have hmono {u : UnpackedFloat} (h : IsBounded bound u) : IsBounded (bound + 2) u := by
    cases u with
    | zero => trivial
    | finite => exact ⟨h.1, by have := h.2; omega⟩
    | infinity | notANumber => exact h
  cases u with
  | zero s =>
    cases v with
    | zero s' =>
      rw [UnpackedFloat.add]
      split <;> trivial
    | finite => exact hmono hv
    | infinity | notANumber => exact hv.elim
  | finite s₁ m₁ e₁ h₁ =>
    cases v with
    | zero => exact hmono hu
    | finite s₂ m₂ e₂ h₂ =>
      simp only [UnpackedFloat.add, decreaseExponent]
      obtain ⟨hm₁, he₁⟩ := hu
      obtain ⟨hm₂, he₂⟩ := hv
      have hlog := log2_natAbs_add_lt s₁ s₂ hm₁ hm₂ (e₁ - min e₁ e₂).toNat
        (e₂ - min e₁ e₂).toNat
      have hnext : bound + 2 = bound + 1 + 1 := by omega
      rw [hnext]
      exact isBounded_normalize (by omega) .positive (by omega) (by omega)
    | infinity | notANumber => exact hv.elim
  | infinity | notANumber => exact hu.elim

theorem isBounded_div {s₁ s₂ : Sign} {m₁ m₂ : Nat} {e₁ e₂ : Int} (h₁ : 0 < m₁) (h₂ : 0 < m₂)
    (hm : m₁ < 2 ^ 53) (he : e₁ - e₂ ≤ bound) :
    IsBounded (bound + 1)
      (UnpackedFloat.div .binary64 (.finite s₁ m₁ e₁ h₁) (.finite s₂ m₂ e₂ h₂)) := by
  simp only [UnpackedFloat.div, divCore]
  generalize Format.binary64.targetExponent
    (totalExponent m₁ e₁ - totalExponent m₂ e₂) = target
  have hlog : m₁.log2 < 53 := log2_lt_of_lt (by decide) hm
  have hshift := log2_shiftLeft_le m₁ (e₁ - e₂ - min (e₁ - e₂) target).toNat
  have hdiv : (m₁ <<< (e₁ - e₂ - min (e₁ - e₂) target).toNat / m₂).log2 ≤
      (m₁ <<< (e₁ - e₂ - min (e₁ - e₂) target).toNat).log2 :=
    Nat.le_of_lt_succ <| log2_lt_of_lt (Nat.succ_pos _) <|
      (Nat.div_le_self _ _).trans_lt Nat.lt_log2_self
  exact isBounded_roundWithAccuracy hbound _ _ (by omega) (by omega)

end Rounding

/-- A number that fits the format is packed as a finite double. -/
theorem isFinite_pack {u : UnpackedFloat} (hu : IsBounded 971 u) :
    (Float.Model.pack u).unpack.isFinite := by
  refine isFinite_unpack ?_
  change @unpackExponent .binary64 (UnpackedFloat.pack .binary64 u) ≠ _
  cases u with
  | zero s =>
    rw [UnpackedFloat.pack, packedZero, unpackExponent_packComponents]
    decide
  | finite s m e h =>
    have he : e ≤ 971 := hu.2
    simp only [UnpackedFloat.pack]
    rw [if_neg (by simp [Format.exponentBias]; omega)]
    split
    · rw [unpackExponent_packComponents, ne_eq, ← BitVec.toNat_inj]
      simp [Format.exponentBias]
      omega
    · rw [unpackExponent_packComponents]
      decide
  | infinity | notANumber => exact hu.elim

/-! ### Doubles taken apart -/

/-- The sign of a number by its sign bit. -/
def signOf (negative : Bool) : Sign :=
  if negative then .negative else .positive

/-- The mantissa of a double of another field than the first has a leading bit. -/
theorem toNat_one_append (fraction : BitVec 52) :
    (1#1 ++ fraction).toNat = fieldUnit + fraction.toNat := by
  rw [BitVec.toNat_append, ← Nat.shiftLeft_add_eq_or_of_lt fraction.isLt]
  rfl

section Unpack

variable (x : Float)

theorem ofBitVec_unpackSign :
    Sign.ofBitVec (@unpackSign .binary64 x.toBits.toBitVec) =
      signOf (Binary.ofFloat x).negative := by
  have hbit : @unpackSign .binary64 x.toBits.toBitVec = 0#1 ↔ ¬signUnit ≤ x.toBits.toNat := by
    rw [← BitVec.toNat_inj, toNat_unpackSign, BitVec.toNat_zero, Nat.div_eq_zero_iff_lt (by decide),
      Nat.not_le]
    exact Iff.rfl
  simp only [Sign.ofBitVec, hbit, signOf, Binary.ofFloat, decide_eq_true_eq, ite_not]

variable {x}

theorem ofFloat_of_first_field (h : @unpackExponent .binary64 x.toBits.toBitVec = 0#11) :
    (Binary.ofFloat x).mantissa = (@unpackMantissa .binary64 x.toBits.toBitVec).toNat ∧
      (Binary.ofFloat x).exponent = minExponent := by
  have hfield : x.toBits.toNat / fieldUnit % fieldCount = 0 :=
    (toNat_unpackExponent _).symm.trans (congrArg BitVec.toNat h)
  rw [toNat_unpackMantissa]
  simp only [Binary.ofFloat, hfield, if_true]
  exact ⟨rfl, rfl⟩

theorem ofFloat_of_other_field (h : @unpackExponent .binary64 x.toBits.toBitVec ≠ 0#11) :
    (Binary.ofFloat x).mantissa = (1#1 ++ @unpackMantissa .binary64 x.toBits.toBitVec).toNat ∧
      (Binary.ofFloat x).exponent =
        (@unpackExponent .binary64 x.toBits.toBitVec).toNat - 1 + minExponent := by
  have hfield : x.toBits.toNat / fieldUnit % fieldCount ≠ 0 := fun hzero =>
    h (BitVec.eq_of_toNat_eq ((toNat_unpackExponent _).trans hzero))
  have hbits : x.toBits.toBitVec.toNat = x.toBits.toNat := rfl
  rw [toNat_one_append, toNat_unpackMantissa, toNat_unpackExponent, hbits]
  simp only [Binary.ofFloat, if_neg hfield, true_and]
  omega

/-- A finite double is zero or the number that it stands for. -/
theorem unpack_of_isFinite (hx : x.isFinite) :
    ((Binary.ofFloat x).mantissa = 0 ∧ (Binary.ofFloat x).exponent = minExponent ∧
        x.toModel.unpack = .zero (signOf (Binary.ofFloat x).negative)) ∨
      ∃ h : 0 < (Binary.ofFloat x).mantissa, x.toModel.unpack =
        .finite (signOf (Binary.ofFloat x).negative) (Binary.ofFloat x).mantissa
          (Binary.ofFloat x).exponent h := by
  have hunpack : x.toModel.unpack = UnpackedFloat.unpack .binary64 x.toBits.toBitVec := rfl
  have hfinite : (UnpackedFloat.unpack .binary64 x.toBits.toBitVec).isFinite := hx
  have hbias : (Format.binary64.exponentBias : Int) = 1023 := rfl
  rw [hunpack]
  simp only [UnpackedFloat.unpack, ofBitVec_unpackSign] at hfinite ⊢
  split_ifs at hfinite ⊢ with hlast hinfinity hfirst hzero
  · cases hfinite
  · cases hfinite
  · obtain ⟨hmantissa, hexponent⟩ := ofFloat_of_first_field hfirst
    exact .inl ⟨hmantissa.trans (congrArg BitVec.toNat hzero), hexponent, rfl⟩
  · obtain ⟨hmantissa, hexponent⟩ := ofFloat_of_first_field hfirst
    have hpos : 0 < (@unpackMantissa .binary64 x.toBits.toBitVec).toNat :=
      Nat.pos_of_ne_zero fun h => hzero (BitVec.eq_of_toNat_eq h)
    refine .inr ⟨hmantissa ▸ hpos, ?_⟩
    simp only [hmantissa, hexponent, hfirst, hbias]
    rfl
  · obtain ⟨hmantissa, hexponent⟩ := ofFloat_of_other_field hfirst
    have hpos : 0 < (1#1 ++ @unpackMantissa .binary64 x.toBits.toBitVec).toNat := by
      rw [toNat_one_append]
      exact Nat.add_pos_left (by decide) _
    refine .inr ⟨hmantissa ▸ hpos, ?_⟩
    simp only [hmantissa, hexponent, hbias, UnpackedFloat.finite.injEq, true_and, minExponent]
    omega

end Unpack

theorem isBounded_unpack {x : Float} (hx : x.isFinite) {bound : Int}
    (hbound : (Binary.ofFloat x).exponent ≤ bound) : IsBounded bound x.toModel.unpack := by
  rcases unpack_of_isFinite hx with ⟨-, -, h⟩ | ⟨hpos, h⟩
  · rw [h]
    trivial
  · rw [h]
    exact ⟨(Binary.ofFloat_bounds x).1, hbound⟩

/-- **The sum of two doubles of small exponents is finite.** -/
theorem isFinite_add {x y : Float} (hx : x.isFinite) (hy : y.isFinite)
    (hxe : (Binary.ofFloat x).exponent ≤ 969) (hye : (Binary.ofFloat y).exponent ≤ 969) :
    (x + y).isFinite :=
  isFinite_pack (isBounded_add (by decide) (isBounded_unpack hx hxe) (isBounded_unpack hy hye))

/-- **A quotient is finite if the exponents do not lie too far apart.** -/
theorem isFinite_div {x y : Float} (hx : x.isFinite) (hy : y.isFinite)
    (hy0 : (Binary.ofFloat y).mantissa ≠ 0)
    (he : (Binary.ofFloat x).exponent - (Binary.ofFloat y).exponent ≤ 970) :
    (x / y).isFinite := by
  refine isFinite_pack (u := UnpackedFloat.div .binary64 x.toModel.unpack y.toModel.unpack) ?_
  obtain ⟨hypos, hyunpack⟩ := (unpack_of_isFinite hy).resolve_left fun h => hy0 h.1
  rw [hyunpack]
  rcases unpack_of_isFinite hx with ⟨-, -, hxunpack⟩ | ⟨hxpos, hxunpack⟩
  · rw [hxunpack]
    trivial
  · rw [hxunpack]
    exact isBounded_div (by decide) hxpos hypos (Binary.ofFloat_bounds x).1 he

/-! ### Doubles that are compared -/

theorem lt_iff_unpack {x y : Float} : x < y ↔ x.toModel.unpack.lt y.toModel.unpack = true := by
  change Float.lt x y = true ↔ _
  rw [Float.lt, decide_eq_true_iff]
  exact Iff.rfl

theorem not_lt_self (x : Float) : ¬ x < x := by
  rw [lt_iff_unpack]
  rcases x.toModel.unpack with (_ | _) | _ | (_ | _) | ⟨_ | _, m, e, h⟩ <;>
    simp [UnpackedFloat.lt, UnpackedFloat.compare]

theorem unpack_zero : (0 : Float).toModel.unpack = .zero .positive := rfl

/-- A double is below zero if it is infinite or finite with a negative sign. -/
theorem lt_zero_iff {x : Float} : x < 0 ↔ x.toModel.unpack = .infinity .negative ∨
    ∃ m e h, x.toModel.unpack = .finite .negative m e h := by
  rw [lt_iff_unpack, unpack_zero]
  rcases x.toModel.unpack with (_ | _) | _ | (_ | _) | ⟨_ | _, m, e, h⟩ <;>
    simp [UnpackedFloat.lt, UnpackedFloat.compare, *]

theorem zero_lt_iff {x : Float} : 0 < x ↔ x.toModel.unpack = .infinity .positive ∨
    ∃ m e h, x.toModel.unpack = .finite .positive m e h := by
  rw [lt_iff_unpack, unpack_zero]
  rcases x.toModel.unpack with (_ | _) | _ | (_ | _) | ⟨_ | _, m, e, h⟩ <;>
    simp [UnpackedFloat.lt, UnpackedFloat.compare, *]

/-- What is below zero is below what is above it. -/
theorem lt_of_lt_zero_of_zero_lt {x y : Float} (hx : x < 0) (hy : 0 < y) : x < y := by
  rw [lt_iff_unpack]
  rcases lt_zero_iff.mp hx with hx | ⟨m, e, h, hx⟩ <;>
    rcases zero_lt_iff.mp hy with hy | ⟨n, d, k, hy⟩ <;> rw [hx, hy] <;> rfl

/-- A number between zero and a finite double is finite. -/
theorem isFinite_of_not_lt {x y : Float} (hn : x.isNaN = false) (hx : ¬ x < 0)
    (hy : y.isFinite) (h : ¬ y < x) : x.isFinite := by
  refine isFinite_of_not_isInf hn fun hinf => ?_
  change x.toModel.unpack.isInf = true at hinf
  cases hxunpack : x.toModel.unpack with
  | infinity s =>
    cases s with
    | negative => exact hx (lt_zero_iff.mpr (.inl hxunpack))
    | positive =>
      refine h (lt_iff_unpack.mpr ?_)
      rw [hxunpack]
      rcases unpack_of_isFinite hy with ⟨-, -, hyunpack⟩ | ⟨hpos, hyunpack⟩
      · rw [hyunpack]
        rfl
      · rw [hyunpack]
        rfl
  | notANumber | zero | finite =>
    rw [hxunpack] at hinf
    cases hinf

/-- A finite double that is not below zero, but is no zero, has a positive sign. -/
theorem unpack_of_not_lt_zero {x : Float} (hxf : x.isFinite) (hx : ¬ x < 0)
    (hpos : 0 < (Binary.ofFloat x).mantissa) : x.toModel.unpack =
      .finite .positive (Binary.ofFloat x).mantissa (Binary.ofFloat x).exponent hpos := by
  obtain ⟨_, hunpack⟩ := (unpack_of_isFinite hxf).resolve_left fun h => hpos.ne' h.1
  cases hnegative : (Binary.ofFloat x).negative with
  | false => rwa [hnegative] at hunpack
  | true =>
    rw [hnegative] at hunpack
    exact absurd (lt_zero_iff.mpr (.inr ⟨_, _, _, hunpack⟩)) hx

/-- The exponents of doubles that are not below zero are in the order of the doubles. -/
theorem exponent_le_of_not_lt {x y : Float} (hxf : x.isFinite) (hyf : y.isFinite) (hx : ¬ x < 0)
    (hy : ¬ y < 0) (h : ¬ x < y) : (Binary.ofFloat y).exponent ≤ (Binary.ofFloat x).exponent := by
  rcases unpack_of_isFinite hyf with ⟨-, hyexponent, -⟩ | ⟨hypos, -⟩
  · rw [hyexponent]
    exact (Binary.ofFloat_bounds x).2.1
  · have hyunpack := unpack_of_not_lt_zero hyf hy hypos
    rw [lt_iff_unpack, hyunpack] at h
    rcases unpack_of_isFinite hxf with ⟨-, -, hxunpack⟩ | ⟨hxpos, -⟩
    · rw [hxunpack] at h
      exact absurd rfl h
    · rw [unpack_of_not_lt_zero hxf hx hxpos] at h
      by_contra hlt
      refine h ?_
      have hcompare := Int.compare_eq_lt.mpr (Int.lt_of_not_ge hlt)
      simp [UnpackedFloat.lt, UnpackedFloat.compare, hcompare]

end PixelMath
