import PixelMath.Proofs.Text.Case
import PixelMath.Proofs.Token.Append

/-!
# Layout and letter case

Two texts differ in layout and letter case only if one comes from the other by small edits: letters
of ASCII change their case, blanks between tokens become other blanks, and blanks appear or
disappear at the ends. None of these edits changes the text of a token. An edit of letter case
changes nothing at all about the tokens.

## Main definitions

* `CosmeticEdit` — one edit of layout or letter case.
* `Cosmetic` — texts that differ in any number of such edits.
* `Token.texts` — the texts of the tokens of some characters.

## Main results

* `Token.scan_map_toLower` — letter case does not matter to tokens.
* `CosmeticEdit.texts_eq`, `Cosmetic.texts_eq` — an edit, and any number of them, keep the texts of
  the tokens.
-/

namespace PixelMath

/-- An edit that is of no account to a reader of tokens. -/
inductive CosmeticEdit : List Char → List Char → Prop
  /-- Letters of ASCII change their case, anywhere in the text. -/
  | letterCase {cs ds : List Char} (h : cs.map Char.toLower = ds.map Char.toLower) :
      CosmeticEdit cs ds
  /-- Blanks become other blanks, where some are left. -/
  | gap (front behind : List Char) {g g' : List Char} (hne : g ≠ []) (hne' : g' ≠ [])
      (hg : ∀ c ∈ g, Text.isBlank c) (hg' : ∀ c ∈ g', Text.isBlank c) :
      CosmeticEdit (front ++ (g ++ behind)) (front ++ (g' ++ behind))
  /-- Blanks at the front of the text become others, or come and go. -/
  | front (behind : List Char) {g g' : List Char} (hg : ∀ c ∈ g, Text.isBlank c)
      (hg' : ∀ c ∈ g', Text.isBlank c) : CosmeticEdit (g ++ behind) (g' ++ behind)
  /-- Blanks at the end of the text become others, or come and go. -/
  | back (front : List Char) {g g' : List Char} (hg : ∀ c ∈ g, Text.isBlank c)
      (hg' : ∀ c ∈ g', Text.isBlank c) : CosmeticEdit (front ++ g) (front ++ g')

/-- Texts that differ in layout and in the case of ASCII letters at most. -/
def Cosmetic (s s' : String) : Prop :=
  Relation.ReflTransGen CosmeticEdit s.toList s'.toList

/-! ### Letter case -/

theorem Place.after_map_toLower (p : Place) (cs : List Char) :
    p.after (cs.map Char.toLower) = p.after cs := by
  have hnext (p : Place) (c : Char) : p.next c.toLower = p.next c := by
    have hbreak : c.toLower = '\n' ↔ c = '\n' := by
      rcases Text.toLower_eq_or c with heq | ⟨hlow, -, hnat⟩
      · rw [heq]
      · refine iff_of_false ?_ ?_
        · intro h
          rw [h] at hnat
          have : ('\n' : Char).toNat = 10 := rfl
          omega
        · rintro rfl
          exact absurd hlow (by decide)
    simp only [next, hbreak, Text.utf8Size_toLower]
  induction cs generalizing p with
  | nil => rfl
  | cons c cs ih => rw [List.map_cons, after_cons, after_cons, hnext, ih]

theorem IsWord.map_toLower {w : List Char} (hw : IsWord w) : IsWord (w.map Char.toLower) where
  ne_nil := mt List.map_eq_nil_iff.mp hw.ne_nil
  not_blank c hc := by
    obtain ⟨d, hd, rfl⟩ := List.mem_map.mp hc
    rw [Text.isBlank_toLower]
    exact hw.not_blank d hd

namespace Token

variable {cs ds g : List Char} {p : Place} {n : Nat}

/-- **Letter case does not matter to tokens**, not even to their places. -/
theorem scan_map_toLower (p : Place) (n : Nat) (cs : List Char) :
    scan p n (cs.map Char.toLower) = scan p n cs := by
  have hblank {g : List Char} (hg : ∀ c ∈ g, Text.isBlank c) :
      ∀ c ∈ g.map Char.toLower, Text.isBlank c := by
    intro c hc
    obtain ⟨d, hd, rfl⟩ := List.mem_map.mp hc
    rw [Text.isBlank_toLower]
    exact hg d hd
  induction cs using words_induction generalizing p n with
  | blanks g hg => rw [scan_blanks hg, scan_blanks (hblank hg)]
  | word g w rest hg hw hrest ih =>
    have hrest' : ∀ c ∈ (rest.map Char.toLower).head?, Text.isBlank c := by
      cases rest with
      | nil => exact hrest
      | cons c rest =>
        rintro d ⟨⟩
        rw [Text.isBlank_toLower]
        exact hrest c rfl
    rw [List.map_append, List.map_append, scan_blanks_word_append (hblank hg) hw.map_toLower hrest',
      scan_blanks_word_append hg hw hrest, ih, Text.lowerChars_map_toLower,
      Place.after_map_toLower, Place.after_map_toLower]

/-! ### Texts of tokens -/

/-- The texts of the tokens of some characters. -/
def texts (cs : List Char) : List String :=
  (scan {} 0 cs).map (·.text)

/-- The place at which a text is read does not matter to the texts of its tokens. -/
theorem map_text_scan (p : Place) (n : Nat) (cs : List Char) :
    (scan p n cs).map (·.text) = texts cs := by
  have hall (p q : Place) (n m : Nat) :
      (scan p n cs).map (·.text) = (scan q m cs).map (·.text) := by
    induction cs using words_induction generalizing p q n m with
    | blanks g hg => rw [scan_blanks hg, scan_blanks hg]
    | word g w rest hg hw hrest ih =>
      rw [scan_blanks_word_append hg hw hrest, scan_blanks_word_append hg hw hrest, List.map_cons,
        List.map_cons, ih]
  exact hall _ _ _ _

theorem texts_append (hds : ∀ c ∈ ds.head?, Text.isBlank c) (cs : List Char) :
    texts (cs ++ ds) = texts cs ++ texts ds := by
  rw [texts, scan_append hds, List.map_append, map_text_scan, map_text_scan]

theorem texts_blanks_append (hg : ∀ c ∈ g, Text.isBlank c) (cs : List Char) :
    texts (g ++ cs) = texts cs := by
  rw [texts, scan_blanks_append hg, map_text_scan]

theorem texts_blanks (hg : ∀ c ∈ g, Text.isBlank c) : texts g = [] := by
  rw [texts, scan_blanks hg, List.map_nil]

end Token

open Token

/-- Blanks between two texts keep their tokens apart. -/
theorem texts_append_gap_append {g : List Char} (hne : g ≠ []) (hg : ∀ c ∈ g, Text.isBlank c)
    (front behind : List Char) : texts (front ++ (g ++ behind)) = texts front ++ texts behind := by
  obtain ⟨c, rest, rfl⟩ := List.exists_cons_of_ne_nil hne
  rw [texts_append, texts_blanks_append hg]
  rintro d ⟨⟩
  exact hg c List.mem_cons_self

/-- **An edit of layout or letter case keeps the texts of the tokens.** -/
theorem CosmeticEdit.texts_eq {cs ds : List Char} (h : CosmeticEdit cs ds) :
    texts cs = texts ds := by
  cases h with
  | letterCase h => rw [texts, ← scan_map_toLower, h, scan_map_toLower, texts]
  | gap front behind hne hne' hg hg' =>
    rw [texts_append_gap_append hne hg, texts_append_gap_append hne' hg']
  | front behind hg hg' => rw [texts_blanks_append hg, texts_blanks_append hg']
  | back front hg hg' =>
    have hhead {g : List Char} (hg : ∀ c ∈ g, Text.isBlank c) : ∀ c ∈ g.head?, Text.isBlank c :=
      fun c hc => hg c (List.mem_of_head? hc)
    rw [texts_append (hhead hg), texts_append (hhead hg'), texts_blanks hg, texts_blanks hg']

/-- So does any number of edits. -/
theorem texts_eq_of_edits {cs ds : List Char} (h : Relation.ReflTransGen CosmeticEdit cs ds) :
    texts cs = texts ds := by
  induction h with
  | refl => rfl
  | tail _ hedit ih => exact ih.trans hedit.texts_eq

theorem Cosmetic.texts_eq {s s' : String} (h : Cosmetic s s') :
    (tokens s).map (·.text) = (tokens s').map (·.text) :=
  texts_eq_of_edits h

end PixelMath
