import Mathlib
import PixelMath.Text.Blank
import PixelMath.Text.LowerCase

/-!
# Plain characters

A listing is written in plain characters only: those of ASCII that leave a mark, without the capital
letters. None of them is a blank, and lower-casing leaves them as they are.

## Main definitions

* `Text.IsPlain` — the characters of listed words.

## Main results

* `takeWhile_dropWhile_append` — the leading run of a text and what lies behind it.
* `Text.lowerChars_of_plain` — plain texts are their own lower case.
-/

namespace PixelMath

universe u

/-- A run of elements with a property ends where the first one without it stands. -/
theorem takeWhile_dropWhile_append {α : Type u} {p : α → Bool} {xs ys : List α}
    (hx : ∀ x ∈ xs, p x) (hy : ∀ y ∈ ys.head?, p y = false) :
    (xs ++ ys).takeWhile p = xs ∧ (xs ++ ys).dropWhile p = ys := by
  rw [List.takeWhile_append_of_pos hx, List.dropWhile_append_of_pos hx]
  cases ys with
  | nil => exact ⟨List.append_nil xs, rfl⟩
  | cons y ys =>
    rw [List.takeWhile_cons, List.dropWhile_cons, hy y rfl]
    exact ⟨List.append_nil xs, rfl⟩

namespace Text

/-- Whether the character is one of ASCII with a mark of its own, other than a capital letter. -/
def IsPlain (c : Char) : Prop :=
  0x21 ≤ c.toNat ∧ c.toNat < 0x7F ∧ ¬ c.isUpper

instance : DecidablePred IsPlain := fun _ => inferInstanceAs (Decidable (_ ∧ _ ∧ _))

theorem IsPlain.not_blank {c : Char} (h : IsPlain c) : isBlank c = false := by
  rw [← Bool.not_eq_true, isBlank, CodeRange.covers_eq_true_iff]
  rintro ⟨r, hr, hfirst, hlast⟩
  obtain ⟨hlow, hhigh, -⟩ := h
  have houtside : ∀ r ∈ blankRanges, r.last < 0x21 ∨ 0x7F ≤ r.first := by decide
  rcases houtside r hr with hr | hr <;> omega

theorem isPlain_of_isDigit {c : Char} (h : c.isDigit) : IsPlain c := by
  rw [Char.isDigit, Bool.and_eq_true, decide_eq_true_eq, decide_eq_true_eq] at h
  have hlow : 0x30 ≤ c.toNat := h.1
  have hhigh : c.toNat ≤ 0x39 := h.2
  refine ⟨by omega, by omega, fun hupper => ?_⟩
  have hcapital : 0x41 ≤ c.toNat := (of_decide_eq_true hupper).1
  omega

/-- A plain text is its own lower case. -/
theorem lowerChars_of_plain {cs : List Char} (h : ∀ c ∈ cs, IsPlain c) : lowerChars cs = cs := by
  have hascii : ∀ c ∈ cs, c.toNat < 0x80 := fun c hc => Nat.lt_trans (h c hc).2.1 (by decide)
  rw [lowerChars, lowerAfter_of_ascii _ hascii]
  calc cs.map Char.toLower
      = cs.map id := List.map_congr_left fun c hc =>
        Char.toLower_eq_of_not_isUpper (h c hc).2.2
    _ = cs := List.map_id cs

end Text

end PixelMath
