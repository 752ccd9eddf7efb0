import PixelMath.Proofs.Number.Grammar

/-!
# The value of a numeral

Every text of the grammar has a value and no other text has one, be it the name of an infinity or
a numeral that breaks off. The value is the decimal number of the text rounded to a double: the
nearest one, with the sign that is written, or an infinity past the largest double.

## Main results

* `Numeral.Denotes.negative_iff` — the sign of the decimal number is that of its text.
* `Numeral.value?_rounds` — which texts have a value, and which one.
-/

namespace PixelMath.Numeral

variable {cs : List Char} {d : Decimal}

/-- The number of a text is negative if the text starts with a minus: nothing else in the grammar
may stand in front of the digits. -/
theorem Denotes.negative_iff (h : Denotes cs d) : d.negative = true ↔ cs.head? = some '-' := by
  cases h with
  | intro hs hm hx =>
    cases hs with
    | absent =>
      obtain ⟨c, cs, rfl, hc⟩ := hm.exists_cons
      refine iff_of_false Bool.false_ne_true ?_
      rintro ⟨⟩
      exact absurd hc (by decide)
    | plus => exact iff_of_false Bool.false_ne_true (by simp)
    | minus => exact iff_of_true rfl rfl

/-- **Reading a numeral.** A text has a value exactly if it is of the grammar. The value is then a
number or an infinity, and negative, zero included, exactly if the text starts with a minus. Let `r`
be the number of 53 bits nearest to the decimal number of the text, with ties to even. A finite
value is `r`, and the value is infinite exactly if `r` exceeds every finite double. -/
theorem value?_rounds (text : String) :
    ((value? text).isSome ↔ IsNumeral text) ∧
      ∀ d, Denotes text.toList d →
        ∃ x, value? text = some x ∧ x.isNaN = false ∧
          ((Binary.ofFloat x).negative = true ↔ text.toList.head? = some '-') ∧
          ∃ r : Binary, r.IsRounding d.magnitude ∧
            (x.isFinite → Binary.ofFloat x = { r with negative := d.negative }) ∧
            (x.isInf ↔ ∀ y : Float, y.isFinite → (Binary.ofFloat y).magnitude < r.magnitude) := by
  refine ⟨isNumeral_iff.symm, fun d hd => ?_⟩
  refine ⟨d.toFloat, value?_eq_some_iff.mpr ⟨d, hd, rfl⟩, d.isNaN_toFloat, ?_, d.toFloat_rounds⟩
  rw [d.toFloat_eq_nearest, negative_nearest]
  exact hd.negative_iff

/-- The number in the middle of two doubles reads as the one with the even mantissa. -/
theorem value?_rounds_tie :
    Denotes "-9007199254740993".toList ⟨true, 9007199254740993, 0⟩ ∧
      ∃ x, value? "-9007199254740993" = some x ∧ x.toBits = 0xC340000000000000 ∧
        x.isNaN = false ∧ (Binary.ofFloat x).negative = true ∧
        ∃ r : Binary, r.IsRounding (Decimal.magnitude ⟨true, 9007199254740993, 0⟩) ∧
          (x.isFinite → Binary.ofFloat x = { r with negative := true }) := by
  have hdenotes : Denotes "-9007199254740993".toList ⟨true, 9007199254740993, 0⟩ :=
    decimalOfChars?_eq_some_iff.mp (by decide +kernel)
  obtain ⟨x, hvalue, hnan, hsign, r, hround, hfinite, -⟩ :=
    (value?_rounds "-9007199254740993").2 _ hdenotes
  have hbits : (value? "-9007199254740993").map Float.toBits = some 0xC340000000000000 := by
    decide +kernel
  rw [hvalue] at hbits
  exact ⟨hdenotes, x, hvalue, Option.some.inj hbits, hnan, hsign.mpr (by decide +kernel), r, hround,
    hfinite⟩

end PixelMath.Numeral
