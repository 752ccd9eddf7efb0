import PixelMath.Proofs.Text
import PixelMath.Token

/-!
# Reading tokens

Blanks in front of a text give no token and only move the place at which it is read; a word that
ends there or at a blank gives one token. These two steps read any text that is put together from
words and blanks, and every text is.

## Main definitions

* `IsWord` — characters that form a token.
* `Token.LiesIn` — a token is that of a word at its place in a text.

## Main results

* `Token.scan_blanks_append`, `Token.scan_word_append` — the two steps.
* `words_induction` — facts about all texts, word by word.
* `Place.line_after`, `Place.offset_after`, `IsWord.line_after` — the place behind some characters.
* `index_of_getElem?_tokens`, `liesIn_of_mem_tokens` — the index and the place of a token.
-/

namespace PixelMath

/-- At least one character and no blank among them. -/
structure IsWord (cs : List Char) : Prop where
  ne_nil : cs ≠ []
  not_blank : ∀ c ∈ cs, Text.isBlank c = false

theorem isWord_of_plain {cs : List Char} (hne : cs ≠ []) (h : ∀ c ∈ cs, Text.IsPlain c) :
    IsWord cs :=
  ⟨hne, fun c hc => (h c hc).not_blank⟩

/-! ### Places -/

/-- Each line break moves a place down by one line. -/
theorem Place.line_after (p : Place) (cs : List Char) :
    (p.after cs).line = p.line + cs.count '\n' := by
  induction cs generalizing p with
  | nil => rfl
  | cons c cs ih =>
    rw [after_cons, ih, List.count_cons, next]
    by_cases hc : c = '\n'
    · simp only [hc, if_pos, beq_self_eq_true]
      omega
    · simp [hc]

/-- A place counts the bytes of the characters before it. -/
theorem Place.offset_after (p : Place) (cs : List Char) :
    (p.after cs).offset = p.offset + (cs.map Char.utf8Size).sum := by
  induction cs generalizing p with
  | nil => rfl
  | cons c cs ih =>
    rw [after_cons, ih, List.map_cons, List.sum_cons, next, Nat.add_assoc]

/-- The bytes of a text are those of its characters. -/
theorem utf8Len_eq_sum (cs : List Char) : String.utf8Len cs = (cs.map Char.utf8Size).sum := by
  induction cs with
  | nil => rfl
  | cons c cs ih => rw [String.utf8Len_cons, ih, List.map_cons, List.sum_cons, Nat.add_comm]

/-- The place behind some characters, by their line breaks and their bytes. -/
theorem Place.after_eq (p : Place) (cs : List Char) :
    p.after cs = ⟨p.line + cs.count '\n', p.offset + String.utf8Len cs⟩ := by
  rw [utf8Len_eq_sum, ← line_after, ← offset_after]

/-- A word stays on its line. -/
theorem IsWord.line_after {w : List Char} (hw : IsWord w) (p : Place) :
    (p.after w).line = p.line := by
  have hbreak : '\n' ∉ w := fun h => absurd (hw.not_blank _ h) (by decide)
  rw [Place.line_after, List.count_eq_zero.mpr hbreak, Nat.add_zero]

namespace Token

variable {p : Place} {n : Nat} {cs : List Char}

/-! ### The two cases of a scan -/

theorem scan_of_dropWhile_eq_nil (h : cs.dropWhile Text.isBlank = []) : scan p n cs = [] := by
  rw [scan]
  split
  · rfl
  · rename_i c rest heq
    exact absurd (h.symm.trans heq) (List.cons_ne_nil _ _).symm

theorem scan_of_dropWhile_eq_cons {c : Char} {rest : List Char}
    (h : cs.dropWhile Text.isBlank = c :: rest) :
    scan p n cs =
      { text := String.ofList (Text.lowerChars (c :: rest.takeWhile isWordChar)), index := n,
        line := (p.after (cs.takeWhile Text.isBlank)).line,
        offset := (p.after (cs.takeWhile Text.isBlank)).offset } ::
        scan ((p.after (cs.takeWhile Text.isBlank)).after (c :: rest.takeWhile isWordChar)) (n + 1)
          (rest.dropWhile isWordChar) := by
  rw [scan]
  split
  · rename_i heq
    exact absurd (h.symm.trans heq) (List.cons_ne_nil _ _)
  · rename_i c' rest' heq
    obtain ⟨rfl, rfl⟩ := List.cons.inj (h.symm.trans heq)
    rfl

/-! ### Blanks and words -/

/-- Blanks in front of a text only move the place at which it is read. -/
theorem scan_blanks_append {g : List Char} (hg : ∀ c ∈ g, Text.isBlank c) (cs : List Char) :
    scan p n (g ++ cs) = scan (p.after g) n cs := by
  have hdrop : (g ++ cs).dropWhile Text.isBlank = cs.dropWhile Text.isBlank :=
    List.dropWhile_append_of_pos hg
  cases h : cs.dropWhile Text.isBlank with
  | nil => rw [scan_of_dropWhile_eq_nil h, scan_of_dropWhile_eq_nil (hdrop.trans h)]
  | cons c rest =>
    rw [scan_of_dropWhile_eq_cons h, scan_of_dropWhile_eq_cons (hdrop.trans h),
      List.takeWhile_append_of_pos hg, Place.after_append]

theorem isWordChar_eq_true_iff {c : Char} : isWordChar c = true ↔ Text.isBlank c = false := by
  rw [isWordChar, Bool.not_eq_true']

/-- A word that ends the text, or has a blank behind it, gives one token. -/
theorem scan_word_append {w rest : List Char} (hw : IsWord w)
    (hr : ∀ c ∈ rest.head?, Text.isBlank c) :
    scan p n (w ++ rest) =
      { text := String.ofList (Text.lowerChars w), index := n, line := p.line,
        offset := p.offset } :: scan (p.after w) (n + 1) rest := by
  obtain ⟨c, cs, rfl⟩ := List.exists_cons_of_ne_nil hw.ne_nil
  have hc : Text.isBlank c = false := hw.not_blank c List.mem_cons_self
  have hcs : ∀ d ∈ cs, isWordChar d :=
    fun d hd => isWordChar_eq_true_iff.mpr (hw.not_blank d (List.mem_cons_of_mem _ hd))
  have hdrop : (c :: cs ++ rest).dropWhile Text.isBlank = c :: (cs ++ rest) := by
    rw [List.cons_append, List.dropWhile_cons, if_neg (by simp [hc])]
  have htake : (c :: cs ++ rest).takeWhile Text.isBlank = [] := by
    rw [List.cons_append, List.takeWhile_cons, if_neg (by simp [hc])]
  have hend : ∀ d ∈ rest.head?, isWordChar d = false := fun d hd => by simp [isWordChar, hr d hd]
  obtain ⟨hword, hrest⟩ := takeWhile_dropWhile_append hcs hend
  rw [scan_of_dropWhile_eq_cons hdrop, htake, hword, hrest, Place.after_nil]

end Token

/-! ### Texts word by word -/

/-- A text is blanks, or blanks and a word in front of a shorter text that does not go on with the
word. -/
@[elab_as_elim]
theorem words_induction {motive : List Char → Prop}
    (blanks : ∀ g, (∀ c ∈ g, Text.isBlank c) → motive g)
    (word : ∀ g w rest, (∀ c ∈ g, Text.isBlank c) → IsWord w →
      (∀ c ∈ rest.head?, Text.isBlank c) → motive rest → motive (g ++ (w ++ rest)))
    (cs : List Char) : motive cs := by
  induction hk : cs.length using Nat.strongRecOn generalizing cs with
  | ind k ih =>
    have hg : ∀ c ∈ cs.takeWhile Text.isBlank, Text.isBlank c := fun _ => List.mem_takeWhile_imp
    have hcs := List.takeWhile_append_dropWhile (p := Text.isBlank) (l := cs)
    cases h : cs.dropWhile Text.isBlank with
    | nil =>
      rw [h, List.append_nil] at hcs
      exact blanks cs (hcs ▸ hg)
    | cons c tail =>
      have hc : Text.isBlank c = false := by
        simpa [h] using List.head?_dropWhile_not Text.isBlank cs
      have htail := List.takeWhile_append_dropWhile (p := Token.isWordChar) (l := tail)
      have hword : IsWord (c :: tail.takeWhile Token.isWordChar) := by
        refine ⟨List.cons_ne_nil _ _, fun d hd => ?_⟩
        rcases List.mem_cons.mp hd with rfl | hd
        · exact hc
        · exact Token.isWordChar_eq_true_iff.mp (List.mem_takeWhile_imp hd)
      have hrest : ∀ d ∈ (tail.dropWhile Token.isWordChar).head?, Text.isBlank d := by
        intro d hd
        have hend := List.head?_dropWhile_not Token.isWordChar tail
        rw [Option.mem_def.mp hd] at hend
        simpa [Token.isWordChar] using hend
      have hlt : (tail.dropWhile Token.isWordChar).length < k := by
        have hle := (List.dropWhile_sublist Token.isWordChar (l := tail)).length_le
        have hsplit := congrArg List.length hcs
        rw [h, List.length_append, List.length_cons] at hsplit
        omega
      rw [← hcs, h, ← htail, ← List.cons_append]
      exact word _ _ _ hg hword hrest (ih _ hlt _ rfl)

namespace Token

/-- The tokens of blanks, a word and a text behind it. -/
theorem scan_blanks_word_append {p : Place} {n : Nat} {g w rest : List Char}
    (hg : ∀ c ∈ g, Text.isBlank c) (hw : IsWord w) (hr : ∀ c ∈ rest.head?, Text.isBlank c) :
    scan p n (g ++ (w ++ rest)) =
      { text := String.ofList (Text.lowerChars w), index := n, line := (p.after g).line,
        offset := (p.after g).offset } :: scan ((p.after g).after w) (n + 1) rest := by
  rw [scan_blanks_append hg, scan_word_append hw hr]

theorem scan_blanks {p : Place} {n : Nat} {g : List Char} (hg : ∀ c ∈ g, Text.isBlank c) :
    scan p n g = [] :=
  scan_of_dropWhile_eq_nil (List.dropWhile_eq_nil_iff.mpr hg)

/-! ### Index and place of a token -/

theorem index_of_getElem?_scan {cs : List Char} {p : Place} {n k : Nat} {t : Token}
    (h : (scan p n cs)[k]? = some t) : t.index = n + k := by
  induction cs using words_induction generalizing p n k with
  | blanks g hg =>
    rw [scan_blanks hg] at h
    cases h
  | word g w rest hg hw hr ih =>
    rw [scan_blanks_word_append hg hw hr] at h
    cases k with
    | zero =>
      cases h
      rfl
    | succ k =>
      rw [ih h]
      omega

/-- A token is that of a word, and has the place at which the word is read. -/
theorem exists_word_of_mem_scan {cs : List Char} {p : Place} {n : Nat} {t : Token}
    (h : t ∈ scan p n cs) :
    ∃ before word behind, cs = before ++ (word ++ behind) ∧ IsWord word ∧
      t.text = String.ofList (Text.lowerChars word) ∧ t.line = (p.after before).line ∧
      t.offset = (p.after before).offset := by
  induction cs using words_induction generalizing p n with
  | blanks g hg =>
    rw [scan_blanks hg] at h
    exact absurd h List.not_mem_nil
  | word g w rest hg hw hr ih =>
    rw [scan_blanks_word_append hg hw hr] at h
    rcases List.mem_cons.mp h with rfl | h
    · exact ⟨g, w, rest, rfl, hw, rfl, rfl, rfl⟩
    · obtain ⟨before, word, behind, rfl, hword, htext, hline, hoffset⟩ := ih h
      refine ⟨g ++ (w ++ before), word, behind, by simp, hword, htext, ?_, ?_⟩
      · rw [hline, Place.after_append, Place.after_append]
      · rw [hoffset, Place.after_append, Place.after_append]

/-- The token is that of a word of the text: its line counts the line breaks before the word, and
its offset the bytes. -/
def LiesIn (source : String) (t : Token) : Prop :=
  ∃ before word behind, source.toList = before ++ (word ++ behind) ∧ IsWord word ∧
    t.text = String.ofList (Text.lowerChars word) ∧ t.line = 1 + before.count '\n' ∧
    t.offset = (before.map Char.utf8Size).sum

end Token

variable {source : String} {t : Token}

/-- The tokens of a text are numbered from zero. -/
theorem index_of_getElem?_tokens {k : Nat} (h : (tokens source)[k]? = some t) : t.index = k :=
  (Token.index_of_getElem?_scan h).trans (Nat.zero_add k)

theorem liesIn_of_mem_tokens (h : t ∈ tokens source) : t.LiesIn source := by
  obtain ⟨before, word, behind, hsource, hword, htext, hline, hoffset⟩ :=
    Token.exists_word_of_mem_scan h
  refine ⟨before, word, behind, hsource, hword, htext, ?_, ?_⟩
  · rw [hline, Place.line_after]
  · rw [hoffset, Place.offset_after, Nat.zero_add]

end PixelMath
