import PixelMath.Proofs.Text

/-!
# Lower case and the letters of ASCII

The lower case of a capital sigma hangs on the characters around it: whether they are cased, and
which of them are passed over. A letter of ASCII answers both in the same way as a capital and as a
small letter, so the lower case of a text does not depend on the case of its ASCII letters, whatever
other characters stand next to them. Nor do blanks, line breaks and lengths.

## Main definitions

* `SparesLetters`, `HoldsLetters` — the tables that hold none of the letters of ASCII, or all.

## Main results

* `toLower_eq_or` — what the lower case of a character of ASCII changes.
* `isBlank_toLower`, `meetsCased_map_toLower` — the properties that a capital shares with its small
  letter.
* `lowerChars_map_toLower` — a text and the same text with small letters in ASCII have one lower
  case.
-/

namespace PixelMath.Text

/-! ### Characters -/

/-- Only the capitals of ASCII are changed, to the letters 32 places behind. -/
theorem toLower_eq_or (c : Char) :
    c.toLower = c ∨ 0x41 ≤ c.toNat ∧ c.toNat ≤ 0x5A ∧ c.toLower.toNat = c.toNat + 0x20 := by
  by_cases h : c.isUpper
  · have hrange := h
    rw [Char.isUpper, Bool.decide_and, Bool.and_eq_true, decide_eq_true_eq,
      decide_eq_true_eq] at hrange
    have hlow : 0x41 ≤ c.toNat := hrange.1
    have hhigh : c.toNat ≤ 0x5A := hrange.2
    refine .inr ⟨hlow, hhigh, ?_⟩
    rw [Char.toLower_eq_of_isUpper h, Char.toNat_ofNat, if_pos (.inl (by omega))]
  · exact .inl (Char.toLower_eq_of_not_isUpper h)

/-- The table of a property that no letter of ASCII has. -/
def SparesLetters (table : List CodeRange) : Prop :=
  ∀ r ∈ table, r.last < 0x41 ∨ 0x5A < r.first ∧ r.last < 0x61 ∨ 0x7A < r.first

/-- The table of a property that every letter of ASCII has. -/
def HoldsLetters (table : List CodeRange) : Prop :=
  (∃ r ∈ table, r.first ≤ 0x41 ∧ 0x5A ≤ r.last) ∧ ∃ r ∈ table, r.first ≤ 0x61 ∧ 0x7A ≤ r.last

instance : DecidablePred SparesLetters :=
  fun table => inferInstanceAs (Decidable (∀ r ∈ table, _))

instance : DecidablePred HoldsLetters :=
  fun _ => inferInstanceAs (Decidable (_ ∧ _))

theorem covers_toLower_of_sparesLetters {table : List CodeRange} (h : SparesLetters table)
    (c : Char) : CodeRange.covers table c.toLower = CodeRange.covers table c := by
  rcases toLower_eq_or c with heq | ⟨hlow, hhigh, hnat⟩
  · rw [heq]
  · rw [Bool.eq_iff_iff, CodeRange.covers_eq_true_iff, CodeRange.covers_eq_true_iff]
    refine iff_of_false ?_ ?_ <;> rintro ⟨r, hr, hfirst, hlast⟩ <;> have := h r hr <;> omega

theorem covers_toLower_of_holdsLetters {table : List CodeRange} (h : HoldsLetters table)
    (c : Char) : CodeRange.covers table c.toLower = CodeRange.covers table c := by
  rcases toLower_eq_or c with heq | ⟨hlow, hhigh, hnat⟩
  · rw [heq]
  · obtain ⟨⟨r, hr, hfirst, hlast⟩, ⟨s, hs, hfirst', hlast'⟩⟩ := h
    rw [Bool.eq_iff_iff, CodeRange.covers_eq_true_iff, CodeRange.covers_eq_true_iff]
    exact iff_of_true ⟨s, hs, by omega, by omega⟩ ⟨r, hr, by omega, by omega⟩

@[simp] theorem isBlank_toLower (c : Char) : isBlank c.toLower = isBlank c :=
  covers_toLower_of_sparesLetters (by decide : SparesLetters blankRanges) c

@[simp] theorem lowerChar_toLower (c : Char) : lowerChar c.toLower = lowerChar c := by
  rcases toLower_eq_or c with heq | ⟨-, hhigh, hnat⟩
  · rw [heq]
  · rw [lowerChar, lowerChar, if_pos (by omega), if_pos (by omega), Char.toLower_toLower_eq_toLower]

/-- A character past ASCII is the lower case of itself alone. -/
theorem toLower_eq_iff {c d : Char} (hd : 0x80 ≤ d.toNat) : c.toLower = d ↔ c = d := by
  rcases toLower_eq_or c with heq | ⟨-, hhigh, hnat⟩
  · rw [heq]
  · refine iff_of_false ?_ ?_ <;> rintro rfl <;> omega

theorem utf8Size_toLower (c : Char) : c.toLower.utf8Size = c.utf8Size := by
  have hascii {d : Char} (hd : d.toNat ≤ 0x7F) : d.utf8Size = 1 :=
    Char.utf8Size_eq_one_iff.mpr (UInt32.le_iff_toNat_le.mpr hd)
  rcases toLower_eq_or c with heq | ⟨-, hhigh, hnat⟩
  · rw [heq]
  · rw [hascii (by omega), hascii (by omega)]

/-! ### Texts -/

theorem meetsCased_map_toLower (cs : List Char) :
    meetsCased (cs.map Char.toLower) = meetsCased cs := by
  have hignorable : CodeRange.covers caseIgnorableRanges ∘ Char.toLower =
      CodeRange.covers caseIgnorableRanges :=
    funext (covers_toLower_of_sparesLetters (by decide +kernel))
  have hcased (c : Char) : CodeRange.covers casedRanges c.toLower =
      CodeRange.covers casedRanges c :=
    covers_toLower_of_holdsLetters (by decide) c
  rw [meetsCased, meetsCased, List.dropWhile_map, hignorable]
  cases cs.dropWhile (CodeRange.covers caseIgnorableRanges) with
  | nil => rfl
  | cons c rest => exact hcased c

theorem lowerAfter_map_toLower (before cs : List Char) :
    lowerAfter (before.map Char.toLower) (cs.map Char.toLower) = lowerAfter before cs := by
  induction cs generalizing before with
  | nil => rfl
  | cons c cs ih =>
    have hends : endsWord (before.map Char.toLower) (cs.map Char.toLower) = endsWord before cs := by
      rw [endsWord, endsWord, meetsCased_map_toLower, meetsCased_map_toLower]
    have hrest := ih (c :: before)
    rw [List.map_cons] at hrest
    simp only [List.map_cons, lowerAfter, hrest, hends, lowerChar_toLower,
      toLower_eq_iff (d := 'Σ') (by decide)]

/-- **The case of ASCII letters is lost in lower-casing**, also next to other characters. -/
theorem lowerChars_map_toLower (cs : List Char) :
    lowerChars (cs.map Char.toLower) = lowerChars cs :=
  lowerAfter_map_toLower [] cs

end PixelMath.Text
