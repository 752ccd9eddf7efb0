import PixelMath.Proofs.Token

/-!
# Tokens of texts put together

A text is read without memory: what stands in front of it only moves the place at which it is read.
So where a blank keeps two texts apart, the tokens of both together are those of the first one and,
further on, those of the second one.

## Main definitions

* `Token.move` — a token further on in a text.

## Main results

* `Token.scan_append` — reading a text in two parts.
* `Token.scan_move` — reading a text from another place.
* `tokens_append_blanks` — the tokens of two texts with blanks between them.
-/

namespace PixelMath

namespace Token

/-- The token, as many tokens, lines and bytes further on. -/
def move (index line offset : Nat) (t : Token) : Token where
  text := t.text
  index := index + t.index
  line := line + t.line
  offset := offset + t.offset

variable {cs ds : List Char}

/-- A text is read in two parts, where the second part does not go on with a word. -/
theorem scan_append (hds : ∀ c ∈ ds.head?, Text.isBlank c) (p : Place) (n : Nat) :
    scan p n (cs ++ ds) = scan p n cs ++ scan (p.after cs) (n + (scan p n cs).length) ds := by
  induction cs using words_induction generalizing p n with
  | blanks g hg => rw [scan_blanks_append hg, scan_blanks hg, List.nil_append, List.length_nil,
      Nat.add_zero]
  | word g w rest hg hw hrest ih =>
    have hhead : ∀ c ∈ (rest ++ ds).head?, Text.isBlank c := by
      cases rest with
      | nil => exact hds
      | cons c rest => exact hrest
    have hindex (k : Nat) : n + 1 + k = n + (k + 1) := by omega
    rw [List.append_assoc, List.append_assoc, scan_blanks_word_append hg hw hhead,
      scan_blanks_word_append hg hw hrest, ih, Place.after_append, Place.after_append,
      List.cons_append, List.length_cons, hindex]

theorem after_move (line offset : Nat) (p : Place) (cs : List Char) :
    Place.after ⟨line + p.line, offset + p.offset⟩ cs =
      ⟨line + (p.after cs).line, offset + (p.after cs).offset⟩ := by
  rw [Place.after_eq, Place.after_eq, Nat.add_assoc, Nat.add_assoc]

/-- A text that is read from a place further on has its tokens further on. -/
theorem scan_move (index line offset : Nat) (p : Place) (n : Nat) (cs : List Char) :
    scan ⟨line + p.line, offset + p.offset⟩ (index + n) cs =
      (scan p n cs).map (move index line offset) := by
  induction cs using words_induction generalizing p n with
  | blanks g hg => rw [scan_blanks hg, scan_blanks hg, List.map_nil]
  | word g w rest hg hw hrest ih =>
    rw [scan_blanks_word_append hg hw hrest, scan_blanks_word_append hg hw hrest, List.map_cons,
      ← ih, after_move, after_move, Nat.add_assoc]
    rfl

end Token

/-- **The tokens of two texts with blanks between them** are those of the first text, and those of
the second one behind them. -/
theorem tokens_append_blanks (a b : String) {w : String} (hne : w ≠ "")
    (hw : ∀ c ∈ w.toList, Text.isBlank c) :
    tokens (a ++ w ++ b) =
      tokens a ++ (tokens b).map (Token.move (tokens a).length
        ((a ++ w).toList.count '\n') (a ++ w).utf8ByteSize) := by
  obtain ⟨c, cs, hcs⟩ := List.exists_cons_of_ne_nil (mt String.toList_eq_nil_iff.mp hne)
  have hhead : ∀ d ∈ (w.toList ++ b.toList).head?, Text.isBlank d := by
    rw [hcs, List.cons_append, List.head?_cons]
    rintro d ⟨⟩
    exact hw c (hcs ▸ List.mem_cons_self)
  have hplace : (Place.after {} a.toList).after w.toList =
      ⟨(a ++ w).toList.count '\n' + 1, (a ++ w).utf8ByteSize + 0⟩ := by
    rw [← Place.after_append, ← String.toList_append, Place.after_eq, String.utf8Len_toList,
      Nat.add_comm, Nat.add_comm _ (a ++ w).utf8ByteSize]
  have hmove := Token.scan_move (tokens a).length ((a ++ w).toList.count '\n')
    (a ++ w).utf8ByteSize {} 0 b.toList
  have hsource : (a ++ w ++ b).toList = a.toList ++ (w.toList ++ b.toList) := by
    rw [String.toList_append, String.toList_append, List.append_assoc]
  rw [tokens, hsource, Token.scan_append hhead, Token.scan_blanks_append hw, hplace, Nat.zero_add]
  exact congrArg (tokens a ++ ·) hmove

end PixelMath
