import Mathlib
import PixelMath.Number.Shortest

/-!
# The bits of a double

A double is determined by its bits, and every bit pattern up to that of infinity, with either sign,
is the pattern of a double; the patterns above it are those of no number. The standard model of a
double keeps one of the latter and takes every other pattern apart into sign, exponent field and
fraction field.

## Main definitions

* `magnitudeBits` — the bits of a double without its sign.

## Main results

* `toBits_ofBits`, `isNaN_ofBits` — the patterns of doubles, and all others.
* `eq_of_magnitudeBits` — a double is known by its sign and its other bits.
* `isFinite_iff`, `isInf_iff`, `isNaN_iff` — the kinds of doubles by their bits.
-/

namespace PixelMath

open Float.Model Float.Model.UnpackedFloat

/-! ### The fields of a bit pattern -/

section Fields

variable (b : BitVec 64)

theorem toNat_unpackExponent :
    (@unpackExponent .binary64 b).toNat = b.toNat / fieldUnit % fieldCount := by
  simp [unpackExponent, BitVec.extractLsb_toNat, fieldUnit, fieldCount, Nat.shiftRight_eq_div_pow]

theorem toNat_unpackMantissa : (@unpackMantissa .binary64 b).toNat = b.toNat % fieldUnit := by
  simp [unpackMantissa, BitVec.extractLsb_toNat, fieldUnit]

theorem toNat_unpackSign : (@unpackSign .binary64 b).toNat = b.toNat / signUnit := by
  have hlt : b.toNat / signUnit < 2 := Nat.div_lt_of_lt_mul (b.isLt.trans_eq (by decide))
  have hbit : (@unpackSign .binary64 b).toNat = b.toNat / signUnit % 2 := by
    simp [unpackSign, BitVec.extractLsb_toNat, signUnit, Nat.shiftRight_eq_div_pow]
  rw [hbit, Nat.mod_eq_of_lt hlt]

private theorem unpackExponent_eq_last_iff :
    @unpackExponent .binary64 b = -1#11 ↔ b.toNat / fieldUnit % fieldCount = fieldCount - 1 := by
  rw [← BitVec.toNat_inj, toNat_unpackExponent]
  rfl

private theorem unpackMantissa_eq_zero_iff :
    @unpackMantissa .binary64 b = 0#52 ↔ b.toNat % fieldUnit = 0 := by
  rw [← BitVec.toNat_inj, toNat_unpackMantissa]
  rfl

end Fields

/-- Without its sign bit a pattern is the exponent field above the fraction field. -/
theorem mod_signUnit (n : Nat) :
    n % signUnit = n / fieldUnit % fieldCount * fieldUnit + n % fieldUnit := by
  rw [show signUnit = fieldUnit * fieldCount from rfl, Nat.mod_mul, Nat.mul_comm, Nat.add_comm]

/-! ### Doubles and their bits -/

/-- The bits of a double without its sign. -/
def magnitudeBits (x : Float) : Nat :=
  x.toBits.toNat % signUnit

/-- The patterns up to that of infinity are those of doubles. -/
theorem toBits_ofBits {b : UInt64} (hb : b.toNat % signUnit ≤ infinityBits) :
    (Float.ofBits b).toBits = b := by
  have hvalid : Format.binary64.Valid b.toBitVec := by
    refine ⟨fun hlast hne => absurd ?_ hne⟩
    have hfield : b.toNat / fieldUnit % fieldCount = fieldCount - 1 :=
      (unpackExponent_eq_last_iff _).mp hlast
    refine (unpackMantissa_eq_zero_iff _).mpr ?_
    change b.toNat % fieldUnit = 0
    rw [mod_signUnit, hfield, infinityBits] at hb
    omega
  exact congrArg UInt64.ofBitVec (pack_unpack_of_valid hvalid)

/-- The sign bit is the only one that the magnitude leaves out. -/
theorem toNat_toBits (x : Float) :
    x.toBits.toNat = magnitudeBits x + if (Binary.ofFloat x).negative then signUnit else 0 := by
  have hlt := x.toBits.toNat_lt
  simp only [magnitudeBits, Binary.ofFloat, decide_eq_true_eq]
  split <;> simp only [signUnit] at * <;> omega

theorem eq_of_magnitudeBits {x y : Float}
    (hs : (Binary.ofFloat x).negative = (Binary.ofFloat y).negative)
    (hm : magnitudeBits x = magnitudeBits y) : x = y := by
  refine Float.toBits_inj.mp (UInt64.toNat_inj.mp ?_)
  rw [toNat_toBits, toNat_toBits, hs, hm]

/-! ### Kinds of doubles -/

theorem isFinite_unpack {b : BitVec 64} (h : @unpackExponent .binary64 b ≠ -1#11) :
    (UnpackedFloat.unpack .binary64 b).isFinite := by
  simp only [UnpackedFloat.unpack]
  rw [if_neg h]
  split_ifs <;> rfl

/-- A double is finite, infinite or no number as its bits lie below those of infinity, are those
of infinity, or lie above them. -/
private theorem unpack_cases (x : Float) :
    (magnitudeBits x < infinityBits ∧ x.toModel.unpack.isFinite = true) ∨
      (magnitudeBits x = infinityBits ∧ ∃ sign, x.toModel.unpack = .infinity sign) ∨
      (infinityBits < magnitudeBits x ∧ x.toModel.unpack = .notANumber) := by
  have hlast : _ ↔ x.toBits.toNat / fieldUnit % fieldCount = _ :=
    unpackExponent_eq_last_iff x.toBits.toBitVec
  have hzero : _ ↔ x.toBits.toNat % fieldUnit = 0 := unpackMantissa_eq_zero_iff x.toBits.toBitVec
  have hfield : x.toBits.toNat / fieldUnit % fieldCount < fieldCount := Nat.mod_lt _ (by decide)
  have hfraction : x.toBits.toNat % fieldUnit < fieldUnit := Nat.mod_lt _ (by decide)
  have hbits : magnitudeBits x = _ := mod_signUnit x.toBits.toNat
  have hunpack : x.toModel.unpack = UnpackedFloat.unpack .binary64 x.toBits.toBitVec := rfl
  rw [infinityBits, hbits, hunpack]
  by_cases he : @unpackExponent .binary64 x.toBits.toBitVec = -1#11
  · rw [hlast.mp he]
    by_cases hm : @unpackMantissa .binary64 x.toBits.toBitVec = 0#52
    · have hbits : (fieldCount - 1) * fieldUnit + x.toBits.toNat % fieldUnit =
          (fieldCount - 1) * fieldUnit := by rw [hzero.mp hm, Nat.add_zero]
      refine .inr (.inl ⟨hbits,
        Sign.ofBitVec (@unpackSign .binary64 x.toBits.toBitVec), ?_⟩)
      simp only [UnpackedFloat.unpack]
      rw [if_pos he, if_pos hm]
    · refine .inr (.inr ⟨?_, ?_⟩)
      · have hpos := Nat.pos_of_ne_zero (mt hzero.mpr hm)
        omega
      · simp only [UnpackedFloat.unpack]
        rw [if_pos he, if_neg hm]
  · refine .inl ⟨?_, isFinite_unpack he⟩
    have hne := mt hlast.mpr he
    simp only [fieldCount, fieldUnit] at *
    omega

theorem isFinite_iff (x : Float) : x.isFinite ↔ magnitudeBits x < infinityBits := by
  change x.toModel.unpack.isFinite ↔ _
  rcases unpack_cases x with ⟨hlt, h⟩ | ⟨heq, sign, h⟩ | ⟨hgt, h⟩
  · exact iff_of_true h hlt
  · simp [h, UnpackedFloat.isFinite, heq]
  · simp [h, UnpackedFloat.isFinite, hgt.le]

theorem isInf_iff (x : Float) : x.isInf ↔ magnitudeBits x = infinityBits := by
  change x.toModel.unpack.isInf ↔ _
  rcases unpack_cases x with ⟨hlt, h⟩ | ⟨heq, sign, h⟩ | ⟨hgt, h⟩
  · refine iff_of_false ?_ hlt.ne
    cases hx : x.toModel.unpack <;> simp_all [UnpackedFloat.isFinite, UnpackedFloat.isInf]
  · exact iff_of_true (by rw [h]; rfl) heq
  · simp [h, UnpackedFloat.isInf, hgt.ne']

theorem isNaN_iff (x : Float) : x.isNaN ↔ infinityBits < magnitudeBits x := by
  change x.toModel.unpack.isNaN ↔ _
  rcases unpack_cases x with ⟨hlt, h⟩ | ⟨heq, sign, h⟩ | ⟨hgt, h⟩
  · refine iff_of_false ?_ hlt.le.not_gt
    cases hx : x.toModel.unpack <;> simp_all [UnpackedFloat.isFinite, UnpackedFloat.isNaN]
  · simp [h, heq]
  · exact iff_of_true (by rw [h]; rfl) hgt

/-- The patterns above that of infinity are those of no number. -/
theorem isNaN_ofBits {b : UInt64} (hb : infinityBits < b.toNat % signUnit) :
    (Float.ofBits b).isNaN := by
  have hfraction : b.toNat % fieldUnit < fieldUnit := Nat.mod_lt _ (by decide)
  have hfield : b.toNat / fieldUnit % fieldCount < fieldCount := Nat.mod_lt _ (by decide)
  rw [mod_signUnit, infinityBits] at hb
  have hlast : @unpackExponent .binary64 b.toBitVec = -1#11 := by
    refine (unpackExponent_eq_last_iff _).mpr ?_
    change b.toNat / fieldUnit % fieldCount = fieldCount - 1
    simp only [fieldCount, fieldUnit] at *
    omega
  have hne : @unpackMantissa .binary64 b.toBitVec ≠ 0#52 := by
    refine mt (unpackMantissa_eq_zero_iff _).mp ?_
    change b.toNat % fieldUnit ≠ 0
    simp only [fieldCount, fieldUnit] at *
    omega
  have hunpack : UnpackedFloat.unpack .binary64 b.toBitVec = .notANumber := by
    simp only [UnpackedFloat.unpack]
    rw [if_pos hlast, if_neg hne]
  -- one pattern is kept for all of them
  have hbits : (Float.ofBits b).toBits = 0x7FF8000000000000 :=
    congrArg (fun x => UInt64.ofBitVec (UnpackedFloat.pack .binary64 x)) hunpack
  rw [isNaN_iff, magnitudeBits, hbits]
  decide

theorem isInf_of_not_isFinite {x : Float} (hn : x.isNaN = false) (hf : ¬ x.isFinite) :
    x.isInf := by
  rw [← Bool.not_eq_true, isNaN_iff, not_lt] at hn
  rw [isFinite_iff, not_lt] at hf
  exact (isInf_iff x).mpr (le_antisymm hn hf)

theorem isNaN_of_isFinite {x : Float} (hf : x.isFinite) : x.isNaN = false := by
  rw [← Bool.not_eq_true, isNaN_iff, not_lt]
  exact ((isFinite_iff x).mp hf).le

theorem isFinite_of_not_isInf {x : Float} (hn : x.isNaN = false) (hi : ¬ x.isInf) :
    x.isFinite := by
  by_contra hf
  exact hi (isInf_of_not_isFinite hn hf)

end PixelMath
