import PixelMath.Proofs.Text.Case

/-!
# Lower case from outside ASCII

Lower-casing may lead from outside ASCII into it, and then a text looks other than what it is read
as. There is one character for which it does, the Kelvin sign, whose lower case is the letter `k`;
a capital I with a dot leaves its dot behind as a character of its own. So a text whose lower case
is of ASCII and free of the letter `k` is of ASCII itself, and its lower case is that of its letters
one by one.

## Main definitions

* `IsAscii` — the characters of ASCII.
* `FromAscii` — those that are the lower case of nothing but characters of ASCII.

## Main results

* `isAscii_lowerChar_iff` — the characters with a lower case in ASCII.
* `isAscii_of_lowerChars` — texts with a lower case in ASCII.
-/

namespace PixelMath.Text

/-- The character is one of ASCII. -/
def IsAscii (c : Char) : Prop :=
  c.toNat < 0x80

instance : DecidablePred IsAscii := fun _ => inferInstanceAs (Decidable (_ < _))

/-- The character is one of ASCII other than the letter `k`, so that no character outside ASCII has
it as its lower case. -/
def FromAscii (c : Char) : Prop :=
  IsAscii c ∧ c ≠ 'k'

instance : DecidablePred FromAscii := fun _ => inferInstanceAs (Decidable (_ ∧ _))

/-! ### Characters -/

namespace CaseRow

/-- The small letters of the row are characters, and none of them is one of ASCII. -/
def LeavesAscii (r : CaseRow) : Prop :=
  0x80 ≤ r.first + r.shift ∧
    (r.last + r.shift < 0xD800 ∨ 0xDFFF < r.first + r.shift ∧ r.last + r.shift < 0x110000)

instance : DecidablePred LeavesAscii := fun _ => inferInstanceAs (Decidable (_ ∧ (_ ∨ _ ∧ _)))

theorem not_isAscii_lower {r : CaseRow} (hr : r.LeavesAscii) {c : Char} (hc : r.mem c) :
    ¬ IsAscii (r.lower c) := by
  rw [mem, Bool.and_eq_true, Bool.and_eq_true, decide_eq_true_eq, decide_eq_true_eq] at hc
  obtain ⟨⟨hfirst, hlast⟩, -⟩ := hc
  obtain ⟨hlow, hvalid⟩ := hr
  have hchar : (c.toNat + r.shift).toNat.isValidChar := by
    rcases hvalid with hbelow | ⟨habove, hhigh⟩
    · exact .inl (by omega)
    · exact .inr ⟨by omega, by omega⟩
  rw [IsAscii, lower, Char.toNat_ofNat, if_pos hchar]
  omega

/-- One row of the table leads into ASCII, that of the Kelvin sign. -/
theorem leavesAscii_or {r : CaseRow} (hr : r ∈ caseRows) :
    r.LeavesAscii ∨ r.first = 0x212A ∧ r.last = 0x212A := by
  revert r
  decide +kernel

end CaseRow

theorem isAscii_toLower {c : Char} (hc : IsAscii c) : IsAscii c.toLower := by
  rw [IsAscii] at *
  rcases toLower_eq_or c with heq | ⟨-, hhigh, hnat⟩
  · rwa [heq]
  · omega

theorem lowerChar_of_isAscii {c : Char} (hc : IsAscii c) : lowerChar c = [c.toLower] :=
  if_pos hc

/-- The lower case of the Kelvin sign is the letter `k`. -/
theorem lowerChar_kelvin : lowerChar '\u212A' = ['k'] := by
  decide

/-- **The Kelvin sign is the only look-alike.** No other character outside ASCII has its lower case
in ASCII. -/
theorem isAscii_lowerChar_iff {c : Char} :
    (∀ d ∈ lowerChar c, IsAscii d) ↔ IsAscii c ∨ c = '\u212A' := by
  constructor
  · intro h
    by_cases hc : IsAscii c
    · exact .inl hc
    · rw [lowerChar, if_neg (show ¬ c.toNat < 0x80 from hc)] at h
      split_ifs at h with hdotted
      · exact absurd (h '\u0307' (by decide)) (by decide)
      · split at h
        · next r hfind =>
          have hmem : r.mem c := List.find?_some (p := fun r : CaseRow => r.mem c) hfind
          rcases CaseRow.leavesAscii_or (List.mem_of_find?_eq_some hfind) with hr | ⟨hfirst, hlast⟩
          · exact absurd (h _ List.mem_cons_self) (CaseRow.not_isAscii_lower hr hmem)
          · rw [CaseRow.mem, Bool.and_eq_true, Bool.and_eq_true, decide_eq_true_eq,
              decide_eq_true_eq, hfirst, hlast] at hmem
            exact .inr (Char.toNat_inj.mp (Nat.le_antisymm hmem.1.2 hmem.1.1))
        · exact absurd (h c List.mem_cons_self) hc
  · rintro (hc | rfl)
    · rw [lowerChar_of_isAscii hc]
      exact List.forall_mem_singleton.mpr (isAscii_toLower hc)
    · exact lowerChar_kelvin ▸ List.forall_mem_singleton.mpr (by decide)

/-! ### Texts -/

/-- **A text is of ASCII if its lower case is** and holds no letter `k`. -/
theorem isAscii_of_lowerChars {cs : List Char} (h : ∀ d ∈ lowerChars cs, FromAscii d) :
    ∀ c ∈ cs, IsAscii c := by
  rw [lowerChars] at h
  generalize ([] : List Char) = before at h
  induction cs generalizing before with
  | nil => exact fun _ hc => absurd hc List.not_mem_nil
  | cons c cs ih =>
    rw [lowerAfter, List.forall_mem_append] at h
    refine List.forall_mem_cons.mpr ⟨?_, ih _ h.2⟩
    have hfirst := h.1
    split_ifs at hfirst with hsigma hends
    -- either small sigma lies outside ASCII
    · exact absurd (hfirst _ List.mem_cons_self) (by decide)
    · exact absurd (hfirst _ List.mem_cons_self) (by decide)
    · rcases isAscii_lowerChar_iff.mp fun d hd => (hfirst d hd).1 with hc | rfl
      · exact hc
      · rw [lowerChar_kelvin] at hfirst
        exact absurd (hfirst _ List.mem_cons_self) (by decide)

/-- On texts of ASCII lower-casing is that of their letters, one by one. -/
theorem toLower_ofList_of_isAscii {cs : List Char} (h : ∀ c ∈ cs, IsAscii c) :
    toLower (String.ofList cs) = String.ofList (cs.map Char.toLower) := by
  rw [toLower, String.toList_ofList, lowerChars, lowerAfter_of_ascii [] h]

end PixelMath.Text
