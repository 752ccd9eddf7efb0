import PixelMath.Number.Numeral
import PixelMath.Proofs.Number.Decimal
import PixelMath.Proofs.Text

/-!
# The text of a number

The text of a double is a numeral, and reading it gives the same double, with the sign of a zero
and with every bit. It consists of digits, with a minus sign and a point where they are needed.
The infinite doubles have names in place of digits, and no numeral reads as anything but a number
or an infinity.

## Main results

* `Numeral.decimalOfChars?_chars` — a decimal number without an exponent is read from its text.
* `Numeral.value?_floatText` — a finite double is read from its text.
* `floatText_of_isInf` — the names of the infinite doubles.
-/

namespace PixelMath

namespace Numeral

/-! ### Reading digits -/

theorem sign_cons_of_isDigit {c : Char} (hc : c.isDigit) (cs : List Char) :
    sign (c :: cs) = (false, c :: cs) := by
  have hplus : c ≠ '+' := by
    rintro rfl
    exact absurd hc (by decide)
  have hminus : c ≠ '-' := by
    rintro rfl
    exact absurd hc (by decide)
  rw [sign]
  · exact fun cs h => hplus (List.cons.inj h).1
  · exact fun cs h => hminus (List.cons.inj h).1

/-- Digits are read up to the first other character. -/
theorem digits_append {ds rest : List Char} (hd : ∀ c ∈ ds, c.isDigit)
    (hr : ∀ c ∈ rest.head?, c.isDigit = false) : digits (ds ++ rest) = (ds, rest) := by
  obtain ⟨htake, hdrop⟩ := takeWhile_dropWhile_append hd hr
  rw [digits, htake, hdrop]

theorem digits_self {ds : List Char} (hd : ∀ c ∈ ds, c.isDigit) : digits ds = (ds, []) := by
  have h : digits (ds ++ []) = (ds, []) := digits_append hd (by simp)
  rwa [List.append_nil] at h

/-- The digits behind the point, if there are any, with their point. -/
def pointText (part : List Char) : List Char :=
  if part = [] then [] else '.' :: part

theorem fraction_pointText {part : List Char} (hp : ∀ c ∈ part, c.isDigit) :
    fraction (pointText part) = (part, []) := by
  rw [pointText]
  split_ifs with h
  · rw [h]
    rfl
  · exact digits_self hp

/-- Digits with a point among them are read as a whole number with the places behind the point. -/
theorem decimalOfChars?_digits (negative : Bool) {whole part : List Char} (hne : whole ≠ [])
    (hw : ∀ c ∈ whole, c.isDigit) (hp : ∀ c ∈ part, c.isDigit) :
    decimalOfChars? ((if negative then ['-'] else []) ++ (whole ++ pointText part)) =
      some ⟨negative, ofDigits (whole ++ part), -part.length⟩ := by
  have hsign : sign ((if negative then ['-'] else []) ++ (whole ++ pointText part)) =
      (negative, whole ++ pointText part) := by
    cases negative with
    | true => rfl
    | false =>
      obtain ⟨c, cs, rfl⟩ := List.exists_cons_of_ne_nil hne
      exact sign_cons_of_isDigit (hw c List.mem_cons_self) _
  have hpoint : ∀ c ∈ (pointText part).head?, c.isDigit = false := by
    intro c hc
    rw [pointText] at hc
    split_ifs at hc
    · exact absurd hc (by simp)
    · obtain rfl : '.' = c := by simpa using hc
      rfl
  have hwhole : whole.isEmpty = false := by simpa using hne
  simp only [decimalOfChars?, hsign, digits_append hw hpoint, fraction_pointText hp, hwhole,
    Bool.false_and]
  simp [exponent?]

end Numeral

/-! ### Writing digits -/

namespace Decimal

/-- The digits of a number with places behind the point, as a reader takes them apart. -/
theorem pointed_eq (n places : Nat) :
    ∃ whole part : List Char, whole ≠ [] ∧ (∀ c ∈ whole, c.isDigit) ∧ (∀ c ∈ part, c.isDigit) ∧
      part.length = places ∧ Numeral.ofDigits (whole ++ part) = n ∧
      pointed n places = whole ++ Numeral.pointText part := by
  have hdigit : ∀ c ∈ (Nat.toDigits 10 n).leftpad (places + 1) '0', c.isDigit := by
    intro c hc
    rw [List.leftpad, List.mem_append] at hc
    rcases hc with hc | hc
    · rw [List.eq_of_mem_replicate hc]
      rfl
    · exact Nat.isDigit_of_mem_toDigits (by decide) (by decide) hc
  have hvalue : Numeral.ofDigits ((Nat.toDigits 10 n).leftpad (places + 1) '0') = n := by
    rw [Numeral.ofDigits, List.leftpad, Nat.ofDigitChars_append]
    simp
  have hlength : places + 1 ≤ ((Nat.toDigits 10 n).leftpad (places + 1) '0').length := by
    rw [List.leftpad, List.length_append, List.length_replicate]
    omega
  simp only [pointed]
  generalize (Nat.toDigits 10 n).leftpad (places + 1) '0' = ds at *
  refine ⟨ds.take (ds.length - places), ds.drop (ds.length - places), ?_,
    fun c hc => hdigit c (List.mem_of_mem_take hc), fun c hc => hdigit c (List.mem_of_mem_drop hc),
    ?_, ?_, ?_⟩
  · refine List.ne_nil_of_length_pos ?_
    rw [List.length_take]
    omega
  · rw [List.length_drop]
    omega
  · rwa [List.take_append_drop]
  · have hpart : ds.drop (ds.length - places) = [] ↔ places = 0 := by
      rw [List.drop_eq_nil_iff]
      omega
    rw [Numeral.pointText]
    simp only [hpart]
    split_ifs with h
    · simp [h]
    · rfl

theorem chars_of_exponent_nonpos {d : Decimal} (h : d.exponent ≤ 0) :
    d.chars = (if d.negative then ['-'] else []) ++ pointed d.coefficient (-d.exponent).toNat := by
  rw [chars, Int.toNat_of_nonpos h]
  simp

/-- The characters of a number: digits, minus signs and points. -/
theorem mem_chars {d : Decimal} {c : Char} (h : d.exponent ≤ 0) (hc : c ∈ d.chars) :
    c.isDigit ∨ c = '-' ∨ c = '.' := by
  obtain ⟨whole, part, -, hw, hp, -, -, heq⟩ := pointed_eq d.coefficient (-d.exponent).toNat
  rw [chars_of_exponent_nonpos h, heq, List.mem_append, List.mem_append] at hc
  rcases hc with hc | hc | hc
  · split_ifs at hc
    · exact .inr (.inl (List.mem_singleton.mp hc))
    · exact absurd hc List.not_mem_nil
  · exact .inl (hw c hc)
  · rw [Numeral.pointText] at hc
    split_ifs at hc
    · exact absurd hc List.not_mem_nil
    · rcases List.mem_cons.mp hc with hc | hc
      · exact .inr (.inr hc)
      · exact .inl (hp c hc)

end Decimal

namespace Numeral

/-- A decimal number with places behind the point only is read from its text. -/
theorem decimalOfChars?_chars {d : Decimal} (h : d.exponent ≤ 0) :
    decimalOfChars? d.chars = some d := by
  obtain ⟨whole, part, hne, hw, hp, hlength, hvalue, heq⟩ :=
    Decimal.pointed_eq d.coefficient (-d.exponent).toNat
  have hexponent : -(part.length : Int) = d.exponent := by
    rw [hlength, Int.toNat_of_nonneg (neg_nonneg.mpr h), neg_neg]
  rw [Decimal.chars_of_exponent_nonpos h, heq, decimalOfChars?_digits _ hne hw hp, hvalue,
    hexponent]

end Numeral

/-! ### The text of a double -/

namespace Decimal

theorem exponent_ofGrid_nonpos (negative : Bool) (n : Nat) (e : Int) :
    (ofGrid negative n e).exponent ≤ 0 := by
  simp [ofGrid]

/-- The digits of a double are written without an exponent. -/
theorem exponent_ofFloat_nonpos (x : Float) : (ofFloat x).exponent ≤ 0 := by
  rcases ofFloat_cases x with ⟨-, h⟩ | ⟨e, h⟩ | h
  · rw [h]
  · obtain ⟨⟨n, hn⟩, -⟩ := ofGrid_of_neighbour? h
    rw [hn]
    exact exponent_ofGrid_nonpos _ _ _
  · rw [h]
    simp [exact]

end Decimal

variable {x : Float}

theorem floatText_of_isFinite (hx : x.isFinite) : floatText x = (Decimal.ofFloat x).text := by
  have hlt := (isFinite_iff x).mp hx
  have hnan : ¬ x.isNaN := mt (isNaN_iff x).mp hlt.le.not_gt
  have hinf : ¬ x.isInf := mt (isInf_iff x).mp hlt.ne
  rw [floatText, if_neg hnan, if_neg hinf]

/-- The name of an infinite double says its sign. -/
theorem floatText_of_isInf (hx : x.isInf) :
    floatText x = if x < 0 then "-inf" else "inf" := by
  have heq := (isInf_iff x).mp hx
  have hnan : ¬ x.isNaN := mt (isNaN_iff x).mp heq.le.not_gt
  rw [floatText, if_neg hnan, if_pos hx]

/-- The characters of the text of a finite double. -/
theorem mem_floatText (hx : x.isFinite) {c : Char} (hc : c ∈ (floatText x).toList) :
    c.isDigit ∨ c = '-' ∨ c = '.' := by
  rw [floatText_of_isFinite hx, Decimal.text, String.toList_ofList] at hc
  exact Decimal.mem_chars (Decimal.exponent_ofFloat_nonpos x) hc

namespace Numeral

/-- The text of a finite double is the numeral of this double. -/
theorem value?_floatText (hx : x.isFinite) : value? (floatText x) = some x := by
  rw [floatText_of_isFinite hx, value?, decimal?, Decimal.text, String.toList_ofList,
    decimalOfChars?_chars (Decimal.exponent_ofFloat_nonpos x), Option.map_some,
    Decimal.toFloat_ofFloat hx]

/-- A numeral is never read as something that is no number. -/
theorem isNaN_of_value? {text : String} (h : value? text = some x) : x.isNaN = false := by
  obtain ⟨d, -, rfl⟩ := Option.map_eq_some_iff.mp h
  exact Decimal.isNaN_toFloat d

end Numeral

end PixelMath
