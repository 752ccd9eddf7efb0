import PixelMath.Proofs.Number.Numeral

/-!
# The grammar of numerals

A numeral is a sign, digits with a point among them and an exponent, where sign, point and exponent
may be missing. Here the grammar is written down apart from the reader, with the decimal number that
each text denotes, and the reader is shown to accept the texts of the grammar and no others.

## Main definitions

* `Numeral.IsDigits`, `Numeral.IsSign`, `Numeral.IsMantissa`, `Numeral.IsExponent` — the parts of
  the grammar.
* `Numeral.Denotes` — a text of the grammar and the number that it denotes.
* `IsNumeral` — the texts of the grammar.

## Main results

* `Numeral.decimalOfChars?_eq_some_iff` — the reader gives the number that the text denotes.
* `Numeral.value?_eq_some_iff` — so does the reader of doubles, rounded to the nearest one.
-/

namespace PixelMath

namespace Numeral

/-! ### The grammar -/

/-- One or more digits. -/
structure IsDigits (cs : List Char) : Prop where
  ne_nil : cs ≠ []
  isDigit : ∀ c ∈ cs, c.isDigit

/-- `[+-]?`, and whether it is a minus. -/
inductive IsSign : List Char → Bool → Prop
  | absent : IsSign [] false
  | plus : IsSign ['+'] false
  | minus : IsSign ['-'] true

/-- `digits ('.' digits?)? | '.' digits`, with the digits before the point and those behind it. -/
inductive IsMantissa : List Char → List Char → List Char → Prop
  | whole {ds : List Char} (hd : IsDigits ds) : IsMantissa ds ds []
  | point {ds : List Char} (hd : IsDigits ds) : IsMantissa (ds ++ ['.']) ds []
  | places {ds ps : List Char} (hd : IsDigits ds) (hp : IsDigits ps) :
      IsMantissa (ds ++ '.' :: ps) ds ps
  | fraction {ps : List Char} (hp : IsDigits ps) : IsMantissa ('.' :: ps) [] ps

/-- `([eE] [+-]? digits)?`, with the exponent that it denotes. -/
inductive IsExponent : List Char → Int → Prop
  | absent : IsExponent [] 0
  | present {marker : Char} {s ds : List Char} {negative : Bool}
      (hmarker : marker = 'e' ∨ marker = 'E') (hs : IsSign s negative) (hd : IsDigits ds) :
      IsExponent (marker :: (s ++ ds)) (if negative then -(ofDigits ds : Int) else ofDigits ds)

/-- `[+-]? (digits ('.' digits?)? | '.' digits) ([eE] [+-]? digits)?`, with the number that it
denotes: the digits behind the point lower the exponent. -/
inductive Denotes : List Char → Decimal → Prop
  | intro {s m x whole part : List Char} {negative : Bool} {e : Int} (hs : IsSign s negative)
      (hm : IsMantissa m whole part) (hx : IsExponent x e) :
      Denotes (s ++ (m ++ x)) ⟨negative, ofDigits (whole ++ part), e - part.length⟩

/-! ### Signs and digits -/

theorem sign_of_isDigit_or_point {c : Char} (hc : c.isDigit ∨ c = '.') (cs : List Char) :
    sign (c :: cs) = (false, c :: cs) := by
  rcases hc with hc | rfl
  · exact sign_cons_of_isDigit hc cs
  · rfl

/-- A sign is read off where a digit or a point stands behind it. -/
theorem sign_append {s cs : List Char} {negative : Bool} {c : Char} (hs : IsSign s negative)
    (hc : c.isDigit ∨ c = '.') : sign (s ++ c :: cs) = (negative, c :: cs) := by
  cases hs with
  | absent => exact sign_of_isDigit_or_point hc cs
  | plus => rfl
  | minus => rfl

/-- What the reader takes off as a sign is one. -/
theorem exists_isSign {cs body : List Char} {negative : Bool} (h : sign cs = (negative, body)) :
    ∃ s, IsSign s negative ∧ cs = s ++ body := by
  unfold sign at h
  split at h <;> cases h
  · exact ⟨_, .plus, rfl⟩
  · exact ⟨_, .minus, rfl⟩
  · exact ⟨_, .absent, rfl⟩

/-- What the reader takes off as digits are digits, though there may be none. -/
theorem eq_append_of_digits {cs ds rest : List Char} (h : digits cs = (ds, rest)) :
    cs = ds ++ rest ∧ ∀ c ∈ ds, c.isDigit := by
  cases h
  exact ⟨List.takeWhile_append_dropWhile.symm, fun _ => List.mem_takeWhile_imp⟩

/-! ### The mantissa -/

/-- Whether a text cannot go on a mantissa: it starts neither with a digit nor with a point. -/
def EndsMantissa (cs : List Char) : Prop :=
  ∀ c ∈ cs.head?, c.isDigit = false ∧ c ≠ '.'

theorem fraction_of_endsMantissa {rest : List Char} (hr : EndsMantissa rest) :
    fraction rest = ([], rest) := by
  rw [fraction]
  rintro cs rfl
  exact (hr '.' rfl).2 rfl

theorem fraction_point_append {ps rest : List Char} (hp : ∀ c ∈ ps, c.isDigit)
    (hr : EndsMantissa rest) : fraction ('.' :: (ps ++ rest)) = (ps, rest) :=
  digits_append hp fun c hc => (hr c hc).1

theorem digits_append_point {ds : List Char} (hd : ∀ c ∈ ds, c.isDigit) (cs : List Char) :
    digits (ds ++ '.' :: cs) = (ds, '.' :: cs) :=
  digits_append hd (by rintro _ ⟨⟩; rfl)

/-- The digits of a mantissa are read off where it ends. -/
theorem digits_mantissa_append {m whole part rest : List Char} (hm : IsMantissa m whole part)
    (hr : EndsMantissa rest) :
    ∃ behind, digits (m ++ rest) = (whole, behind) ∧ fraction behind = (part, rest) := by
  cases hm with
  | whole hd =>
    exact ⟨rest, digits_append hd.isDigit fun c hc => (hr c hc).1, fraction_of_endsMantissa hr⟩
  | point hd =>
    rw [List.append_assoc]
    have hpoint : fraction ('.' :: ([] ++ rest)) = ([], rest) := fraction_point_append (by simp) hr
    exact ⟨_, digits_append_point hd.isDigit rest, hpoint⟩
  | places hd hp =>
    rw [List.append_assoc]
    exact ⟨_, digits_append_point hd.isDigit _, fraction_point_append hp.isDigit hr⟩
  | fraction hp => exact ⟨_, rfl, fraction_point_append hp.isDigit hr⟩

/-- What the reader takes off as digits before and behind a point is a mantissa, unless there are
none on either side. -/
theorem exists_isMantissa {cs whole behind part rest : List Char}
    (hcs : digits cs = (whole, behind)) (hbehind : fraction behind = (part, rest))
    (h : ¬(whole = [] ∧ part = [])) : ∃ m, IsMantissa m whole part ∧ cs = m ++ rest := by
  obtain ⟨rfl, hwhole⟩ := eq_append_of_digits hcs
  unfold fraction at hbehind
  split at hbehind
  · obtain ⟨rfl, hpart⟩ := eq_append_of_digits hbehind
    -- the grammar has a form of its own for a point with digits on one side only
    rcases eq_or_ne whole [] with rfl | hw <;> rcases eq_or_ne part [] with rfl | hp
    · exact absurd ⟨rfl, rfl⟩ h
    · exact ⟨_, .fraction ⟨hp, hpart⟩, rfl⟩
    · exact ⟨_, .point ⟨hw, hwhole⟩, by simp⟩
    · exact ⟨_, .places ⟨hw, hwhole⟩ ⟨hp, hpart⟩, by simp⟩
  · cases hbehind
    exact ⟨_, .whole ⟨fun hw => h ⟨hw, rfl⟩, hwhole⟩, rfl⟩

/-- A mantissa starts with a digit or with a point. -/
theorem IsMantissa.exists_cons {m whole part : List Char} (hm : IsMantissa m whole part) :
    ∃ c cs, m = c :: cs ∧ (c.isDigit ∨ c = '.') := by
  have hdigits {ds : List Char} (hd : IsDigits ds) (rest : List Char) :
      ∃ c cs, ds ++ rest = c :: cs ∧ (c.isDigit ∨ c = '.') := by
    obtain ⟨c, cs, rfl⟩ := List.exists_cons_of_ne_nil hd.ne_nil
    exact ⟨c, cs ++ rest, rfl, .inl (hd.isDigit c List.mem_cons_self)⟩
  cases hm with
  | whole hd => simpa using hdigits hd []
  | point hd => exact hdigits hd _
  | places hd hp => exact hdigits hd _
  | fraction hp => exact ⟨_, _, rfl, .inr rfl⟩

theorem IsMantissa.ne_nil {m whole part : List Char} (hm : IsMantissa m whole part) :
    ¬(whole = [] ∧ part = []) := by
  rintro ⟨rfl, rfl⟩
  cases hm with
  | whole hd => exact hd.ne_nil rfl
  | point hd => exact hd.ne_nil rfl
  | places hd hp => exact hd.ne_nil rfl
  | fraction hp => exact hp.ne_nil rfl

/-! ### The exponent -/

theorem IsExponent.endsMantissa {x : List Char} {e : Int} (hx : IsExponent x e) :
    EndsMantissa x := by
  cases hx with
  | absent => rintro _ ⟨⟩
  | present hmarker hs hd =>
    rintro _ ⟨⟩
    rcases hmarker with rfl | rfl <;> exact ⟨rfl, by decide⟩

theorem exponent?_eq_some_iff {x : List Char} {e : Int} :
    exponent? x = some e ↔ IsExponent x e := by
  constructor
  · intro h
    cases x with
    | nil =>
      cases h
      exact .absent
    | cons c cs =>
      rw [exponent?] at h
      split_ifs at h with hmarker
      cases hs : sign cs with
      | mk negative body =>
        cases hd : digits body with
        | mk ds rest =>
          obtain ⟨s, hsign, rfl⟩ := exists_isSign hs
          obtain ⟨rfl, hdigit⟩ := eq_append_of_digits hd
          simp only [hs, hd] at h
          cases ds with
          | nil => cases h
          | cons d ds =>
            cases rest with
            | nil =>
              cases h
              rw [List.append_nil]
              exact .present hmarker hsign ⟨List.cons_ne_nil d ds, hdigit⟩
            | cons c rest => cases h
  · intro hx
    cases hx with
    | absent => rfl
    | @present marker s ds negative hmarker hs hd =>
      obtain ⟨d, ds', rfl⟩ := List.exists_cons_of_ne_nil hd.ne_nil
      rw [exponent?, if_pos hmarker, sign_append hs (.inl (hd.isDigit d List.mem_cons_self))]
      simp only [digits_self hd.isDigit]

/-! ### The reader -/

/-- **The reader accepts the grammar.** It gives a number exactly for the texts of the grammar, and
gives the number that the text denotes. -/
theorem decimalOfChars?_eq_some_iff {cs : List Char} {d : Decimal} :
    decimalOfChars? cs = some d ↔ Denotes cs d := by
  constructor
  · intro h
    cases hs : sign cs with
    | mk negative body =>
      cases hw : digits body with
      | mk whole behind =>
        cases hp : fraction behind with
        | mk part tail =>
          simp only [decimalOfChars?, hs, hw, hp] at h
          split_ifs at h with hnone
          obtain ⟨e, he, hd⟩ := Option.bind_eq_some_iff.mp h
          cases hd
          obtain ⟨s, hsign, rfl⟩ := exists_isSign hs
          obtain ⟨m, hm, rfl⟩ := exists_isMantissa hw hp (by simpa using hnone)
          exact .intro hsign hm (exponent?_eq_some_iff.mp he)
  · intro h
    cases h with
    | @intro s m x whole part negative e hs hm hx =>
      -- a sign ends where the mantissa starts, and a mantissa where the exponent does
      obtain ⟨c, cs, hcons, hc⟩ := hm.exists_cons
      obtain ⟨behind, hw, hp⟩ := digits_mantissa_append hm hx.endsMantissa
      have hsign : sign (s ++ (m ++ x)) = (negative, m ++ x) := by
        rw [hcons]
        exact sign_append hs hc
      have hnone : ¬(whole.isEmpty && part.isEmpty) = true := by simpa using hm.ne_nil
      simp only [decimalOfChars?, hsign, hw, hp, if_neg hnone, exponent?_eq_some_iff.mpr hx]
      rfl

/-- A text of the grammar is read as the double nearest to the number that it denotes. -/
theorem value?_eq_some_iff {text : String} {x : Float} :
    value? text = some x ↔ ∃ d, Denotes text.toList d ∧ d.toFloat = x := by
  simp only [value?, decimal?, Option.map_eq_some_iff, decimalOfChars?_eq_some_iff]

end Numeral

/-- A text of the grammar. -/
def IsNumeral (text : String) : Prop :=
  ∃ d, Numeral.Denotes text.toList d

theorem isNumeral_iff {text : String} : IsNumeral text ↔ (Numeral.value? text).isSome := by
  simp only [Option.isSome_iff_exists, Numeral.value?_eq_some_iff, IsNumeral]
  exact ⟨fun ⟨d, hd⟩ => ⟨_, d, hd, rfl⟩, fun ⟨_, d, hd, _⟩ => ⟨d, hd⟩⟩

instance : DecidablePred IsNumeral :=
  fun _ => decidable_of_iff _ isNumeral_iff.symm

end PixelMath
