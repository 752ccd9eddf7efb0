import PixelMath.Proofs.Token

/-!
# Tokens are maximal runs

The tokens of a text were read from left to right, blanks and words in turn. Here they are described
by positions alone: a run is a span of the text that holds no blank and cannot be made longer at
either end. Runs do not overlap, every character other than a blank lies in one of them, and the
tokens are those of all runs in their order.

## Main definitions

* `Span`, `Span.slice` — a part of a text, given by its first position and the one behind its last.
* `Span.IsRun` — the maximal runs.
* `Span.token` — the token that a span of a text gives.

## Main results

* `Span.isRun_append_iff` — the runs of a text that begins with blanks and a word.
* `Span.IsRun.eq_of_holds`, `Span.exists_isRun` — each character lies in at most one run, and each
  other than a blank in one.
* `tokens_are_runs` — the tokens of a text.
-/

namespace PixelMath

/-- The positions of a text from `start` on, up to `stop` and without it. -/
structure Span where
  start : Nat
  stop : Nat
deriving DecidableEq, Repr

namespace Span

/-- The characters in the span. -/
def slice (s : Span) (cs : List Char) : List Char :=
  (cs.take s.stop).drop s.start

/-- Whether the span holds the position. -/
def Holds (s : Span) (i : Nat) : Prop :=
  s.start ≤ i ∧ i < s.stop

/-- The span, as many positions further on. -/
def shift (m : Nat) (s : Span) : Span where
  start := m + s.start
  stop := m + s.stop

/-- A maximal run of characters other than blanks: it holds at least one character and no blank, and
whatever stands next to it is a blank. -/
structure IsRun (cs : List Char) (s : Span) : Prop where
  start_lt_stop : s.start < s.stop
  stop_le_length : s.stop ≤ cs.length
  not_blank : ∀ i c, s.Holds i → cs[i]? = some c → Text.isBlank c = false
  blank_before : ∀ i c, i + 1 = s.start → cs[i]? = some c → Text.isBlank c
  blank_behind : ∀ c, cs[s.stop]? = some c → Text.isBlank c

/-- Token `k` of a text, if it is that of the span: the lower case of the characters in the span,
the line, counted from one, and the byte at which the span starts. -/
def token (source : String) (k : Nat) (s : Span) : Token where
  text := Text.toLower (String.ofList (s.slice source.toList))
  index := k
  line := 1 + (source.toList.take s.start).count '\n'
  offset := (String.ofList (source.toList.take s.start)).utf8ByteSize

variable {cs g w rest : List Char} {s s' : Span}

/-! ### Two runs -/

namespace IsRun

theorem start_lt_length (h : s.IsRun cs) : s.start < cs.length :=
  h.start_lt_stop.trans_le h.stop_le_length

theorem start_le_of_holds (h : s.IsRun cs) (h' : s'.IsRun cs) {i : Nat} (hi : s.Holds i)
    (hi' : s'.Holds i) : s'.start ≤ s.start := by
  by_contra hlt
  -- the character in front of the second run is a blank, and lies in the first one
  have hpos : s'.start - 1 < cs.length := by
    have := h'.start_lt_length
    omega
  have hget := List.getElem?_eq_getElem hpos
  have hblank := h'.blank_before _ _ (by omega) hget
  have hnot := h.not_blank (s'.start - 1) _ ⟨by omega, by have := hi.2; have := hi'.1; omega⟩ hget
  rw [hblank] at hnot
  cases hnot

theorem stop_le_of_holds (h : s.IsRun cs) (h' : s'.IsRun cs) {i : Nat} (hi : s.Holds i)
    (hi' : s'.Holds i) : s.stop ≤ s'.stop := by
  by_contra hlt
  have hpos : s'.stop < cs.length := by
    have := h.stop_le_length
    omega
  have hget := List.getElem?_eq_getElem hpos
  have hblank := h'.blank_behind _ hget
  have hnot := h.not_blank s'.stop _ ⟨by have := hi.1; have := hi'.2; omega, by omega⟩ hget
  rw [hblank] at hnot
  cases hnot

/-- Runs do not overlap. -/
theorem eq_of_holds (h : s.IsRun cs) (h' : s'.IsRun cs) {i : Nat} (hi : s.Holds i)
    (hi' : s'.Holds i) : s = s' := by
  have hstart := le_antisymm (h'.start_le_of_holds h hi' hi) (h.start_le_of_holds h' hi hi')
  have hstop := le_antisymm (h.stop_le_of_holds h' hi hi') (h'.stop_le_of_holds h hi' hi)
  cases s
  cases s'
  exact congrArg₂ Span.mk hstart hstop

/-- A run does not start with a blank. -/
theorem start_pos (h : s.IsRun cs) (hcs : ∀ c ∈ cs.head?, Text.isBlank c) : 0 < s.start := by
  refine Nat.pos_of_ne_zero fun hzero => ?_
  have hget := List.getElem?_eq_getElem (hzero ▸ h.start_lt_length)
  have hnot := h.not_blank 0 _ ⟨hzero.le, hzero ▸ h.start_lt_stop⟩ hget
  rw [hcs _ (List.head?_eq_getElem? ▸ hget)] at hnot
  cases hnot

end IsRun

/-! ### Runs of a text word by word -/

/-- Blanks have no run. -/
theorem not_isRun_of_blank (hg : ∀ c ∈ g, Text.isBlank c) : ¬ s.IsRun g := by
  intro h
  have hget := List.getElem?_eq_getElem h.start_lt_length
  have hnot := h.not_blank s.start _ ⟨le_refl _, h.start_lt_stop⟩ hget
  rw [hg _ (List.getElem_mem _)] at hnot
  cases hnot

theorem IsRun.shift (h : s.IsRun rest) (hrest : ∀ c ∈ rest.head?, Text.isBlank c)
    (front : List Char) : (s.shift front.length).IsRun (front ++ rest) where
  start_lt_stop := Nat.add_lt_add_left h.start_lt_stop _
  stop_le_length := by
    rw [List.length_append]
    exact Nat.add_le_add_left h.stop_le_length _
  not_blank i c hi hc := by
    obtain ⟨hstart, hstop⟩ := hi
    simp only [Span.shift] at hstart hstop
    rw [List.getElem?_append_right (by omega)] at hc
    exact h.not_blank _ c ⟨by omega, by omega⟩ hc
  blank_before i c hi hc := by
    have hpos := h.start_pos hrest
    simp only [Span.shift] at hi
    rw [List.getElem?_append_right (by omega)] at hc
    exact h.blank_before _ c (by omega) hc
  blank_behind c hc := by
    simp only [Span.shift] at hc
    rw [List.getElem?_append_right (by omega), Nat.add_sub_cancel_left] at hc
    exact h.blank_behind c hc

/-- A run that starts in the second part of a text is one of that part. -/
theorem IsRun.exists_shift {front : List Char} (h : s.IsRun (front ++ rest))
    (hstart : front.length ≤ s.start) : ∃ s' : Span, s'.IsRun rest ∧ s = s'.shift front.length := by
  obtain ⟨start, stop⟩ := s
  obtain ⟨a, rfl⟩ := Nat.exists_eq_add_of_le (n := start) hstart
  obtain ⟨b, rfl⟩ := Nat.exists_eq_add_of_le (n := stop) (hstart.trans h.start_lt_stop.le)
  have hget (i : Nat) : (front ++ rest)[front.length + i]? = rest[i]? := by
    rw [List.getElem?_append_right (Nat.le_add_right _ _), Nat.add_sub_cancel_left]
  have hle := h.stop_le_length
  rw [List.length_append] at hle
  refine ⟨⟨a, b⟩, ⟨Nat.lt_of_add_lt_add_left h.start_lt_stop, Nat.le_of_add_le_add_left hle,
    fun i c hi hc => ?_, fun i c hi hc => ?_, fun c hc => ?_⟩, rfl⟩
  · exact h.not_blank (front.length + i) c
      ⟨Nat.add_le_add_left hi.1 _, Nat.add_lt_add_left hi.2 _⟩ ((hget i).trans hc)
  · exact h.blank_before (front.length + i) c (congrArg (front.length + ·) hi) ((hget i).trans hc)
  · exact h.blank_behind c ((hget b).trans hc)

/-- The span of a word behind some blanks. -/
def ofWord (g w : List Char) : Span where
  start := g.length
  stop := (g ++ w).length

/-- A word behind blanks is a run where the text does not go on with it. -/
theorem isRun_ofWord (hg : ∀ c ∈ g, Text.isBlank c) (hw : IsWord w)
    (hrest : ∀ c ∈ rest.head?, Text.isBlank c) : (ofWord g w).IsRun (g ++ w ++ rest) where
  start_lt_stop := by
    have := List.length_pos_iff.mpr hw.ne_nil
    simp only [ofWord, List.length_append]
    omega
  stop_le_length := by
    rw [List.length_append]
    exact Nat.le_add_right _ _
  not_blank i c hi hc := by
    obtain ⟨hstart, hstop⟩ := hi
    rw [List.getElem?_append_left hstop, List.getElem?_append_right hstart] at hc
    exact hw.not_blank c (List.mem_of_getElem? hc)
  blank_before i c hi hc := by
    simp only [ofWord] at hi
    rw [List.append_assoc, List.getElem?_append_left (by omega)] at hc
    exact hg c (List.mem_of_getElem? hc)
  blank_behind c hc := by
    simp only [ofWord] at hc
    rw [List.getElem?_append_right (le_refl _), Nat.sub_self, ← List.head?_eq_getElem?] at hc
    exact hrest c hc

/-- The runs of a text that begins with blanks and a word: that of the word, and those behind it. -/
theorem isRun_append_iff (hg : ∀ c ∈ g, Text.isBlank c) (hw : IsWord w)
    (hrest : ∀ c ∈ rest.head?, Text.isBlank c) :
    s.IsRun (g ++ w ++ rest) ↔
      s = ofWord g w ∨ ∃ s' : Span, s'.IsRun rest ∧ s = s'.shift (g ++ w).length := by
  constructor
  · intro h
    rcases le_or_gt (g ++ w).length s.start with hbehind | hbefore
    · exact .inr (h.exists_shift hbehind)
    · -- the run starts in front of the end of the word, and not in the blanks
      have hget := List.getElem?_eq_getElem hbefore
      have hnot := h.not_blank s.start _ ⟨le_refl _, h.start_lt_stop⟩
        ((List.getElem?_append_left hbefore).trans hget)
      have hstart : g.length ≤ s.start := by
        by_contra hlt
        rw [List.getElem_append_left (Nat.lt_of_not_le hlt), hg _ (List.getElem_mem _)] at hnot
        cases hnot
      exact .inl (h.eq_of_holds (isRun_ofWord hg hw hrest) ⟨le_refl _, h.start_lt_stop⟩
        ⟨hstart, hbefore⟩)
  · rintro (rfl | ⟨s', h', rfl⟩)
    · exact isRun_ofWord hg hw hrest
    · exact h'.shift hrest _

/-- Every character other than a blank lies in a run. -/
theorem exists_isRun {i : Nat} {c : Char} (hi : cs[i]? = some c) (hc : Text.isBlank c = false) :
    ∃ s : Span, s.IsRun cs ∧ s.Holds i := by
  induction cs using words_induction generalizing i with
  | blanks g hg =>
    rw [hg c (List.mem_of_getElem? hi)] at hc
    cases hc
  | word g w rest hg hw hrest ih =>
    rw [← List.append_assoc] at hi ⊢
    rcases lt_or_ge i (g ++ w).length with hlt | hge
    · rw [List.getElem?_append_left hlt] at hi
      have hstart : g.length ≤ i := by
        by_contra hbefore
        rw [List.getElem?_append_left (Nat.lt_of_not_le hbefore)] at hi
        rw [hg c (List.mem_of_getElem? hi)] at hc
        cases hc
      exact ⟨_, isRun_ofWord hg hw hrest, hstart, hlt⟩
    · rw [List.getElem?_append_right hge] at hi
      obtain ⟨s, hs, hstart, hstop⟩ := ih hi
      refine ⟨_, hs.shift hrest _, ?_, ?_⟩
      · simp only [shift]
        omega
      · simp only [shift]
        omega

/-! ### Tokens of runs -/

theorem slice_shift (s : Span) (front rest : List Char) :
    (s.shift front.length).slice (front ++ rest) = s.slice rest := by
  rw [slice, slice, shift, List.take_length_add_append, List.drop_length_add_append]

theorem slice_ofWord (g w rest : List Char) : (ofWord g w).slice (g ++ w ++ rest) = w := by
  rw [slice, ofWord, List.take_left, List.drop_left]

end Span

namespace Token

variable {p : Place} {n : Nat}

/-- The token of a span of characters that are read at a place, with a given index. -/
def ofSpan (p : Place) (cs : List Char) (index : Nat) (s : Span) : Token where
  text := String.ofList (Text.lowerChars (s.slice cs))
  index := index
  line := (p.after (cs.take s.start)).line
  offset := (p.after (cs.take s.start)).offset

theorem ofSpan_shift (p : Place) (front rest : List Char) (index : Nat) (s : Span) :
    ofSpan p (front ++ rest) index (s.shift front.length) =
      ofSpan (p.after front) rest index s := by
  rw [ofSpan, ofSpan, Span.slice_shift, Span.shift, List.take_length_add_append,
    Place.after_append]

theorem ofSpan_ofWord (p : Place) (g w rest : List Char) (index : Nat) :
    ofSpan p (g ++ w ++ rest) index (Span.ofWord g w) =
      { text := String.ofList (Text.lowerChars w), index, line := (p.after g).line,
        offset := (p.after g).offset } := by
  rw [ofSpan, Span.slice_ofWord, Span.ofWord, List.append_assoc, List.take_left]

/-- Reading a text gives the tokens of its runs, from left to right. -/
theorem exists_runs_of_scan (p : Place) (n : Nat) (cs : List Char) :
    ∃ runs : List Span, scan p n cs = runs.mapIdx (fun k s => ofSpan p cs (n + k) s) ∧
      (∀ s, s ∈ runs ↔ s.IsRun cs) ∧ runs.Pairwise fun s s' => s.stop < s'.start := by
  induction cs using words_induction generalizing p n with
  | blanks g hg =>
    refine ⟨[], scan_blanks hg, fun s => ?_, .nil⟩
    exact iff_of_false List.not_mem_nil (Span.not_isRun_of_blank hg)
  | word g w rest hg hw hrest ih =>
    obtain ⟨runs, hscan, hmem, hsorted⟩ := ih ((p.after g).after w) (n + 1)
    refine ⟨Span.ofWord g w :: runs.map (Span.shift (g ++ w).length), ?_, fun s => ?_, ?_⟩
    · rw [scan_blanks_word_append hg hw hrest, hscan, List.mapIdx_cons, ← List.append_assoc,
        ofSpan_ofWord, ← Place.after_append]
      refine congrArg₂ List.cons rfl (List.ext_getElem? fun k => ?_)
      have hindex : n + 1 + k = n + (k + 1) := by omega
      rw [List.getElem?_mapIdx, List.getElem?_mapIdx, List.getElem?_map, Option.map_map]
      refine congrArg (Option.map · _) (funext fun s => ?_)
      rw [Function.comp_apply, ofSpan_shift, hindex]
    · rw [← List.append_assoc, Span.isRun_append_iff hg hw hrest, List.mem_cons, List.mem_map]
      simp only [hmem, eq_comm]
    · refine List.pairwise_cons.mpr ⟨fun s hs => ?_, ?_⟩
      · obtain ⟨s', hs', rfl⟩ := List.mem_map.mp hs
        exact Nat.lt_add_of_pos_right (((hmem s').mp hs').start_pos hrest)
      · exact List.pairwise_map.mpr (hsorted.imp fun h => Nat.add_lt_add_left h _)

end Token

/-! ### Tokens of a text -/

/-- A longer part of a text has more bytes. -/
theorem utf8ByteSize_take_lt {cs : List Char} {i j : Nat} (hij : i < j) (hj : j ≤ cs.length) :
    (String.ofList (cs.take i)).utf8ByteSize < (String.ofList (cs.take j)).utf8ByteSize := by
  have hsplit : cs.take j = cs.take i ++ (cs.take j).drop i := by
    conv_lhs => rw [← List.take_append_drop i (cs.take j), List.take_take, min_eq_left hij.le]
  have hne : (cs.take j).drop i ≠ [] := by
    rw [Ne, List.drop_eq_nil_iff, List.length_take, min_eq_left hj]
    exact Nat.not_le_of_lt hij
  rw [hsplit, String.utf8ByteSize_ofList, String.utf8ByteSize_ofList, String.utf8Len_append]
  exact Nat.lt_add_of_pos_right (Nat.pos_of_ne_zero (mt String.utf8Len_eq_zero.mp hne))

/-- The token of a span is the one that is read from the first place of the text. -/
theorem Span.token_eq_ofSpan (source : String) (k : Nat) (s : Span) :
    s.token source k = Token.ofSpan {} source.toList k s := by
  rw [token, Token.ofSpan, Place.line_after, Place.offset_after, Nat.zero_add, Text.toLower,
    String.toList_ofList, String.utf8ByteSize_ofList, utf8Len_eq_sum]

/-- **The tokens of a text are its maximal runs**, in their order: the token of run `k` has index
`k`, the byte at which the run starts as its offset, the line counted from one by the line breaks in
front of it, and the lower case of its characters as its text. Behind each run a blank stands in
front of the next one, so offsets grow from token to token, and every character other than a blank
lies in exactly one run. -/
theorem tokens_are_runs (source : String) :
    ∃ runs : List Span, tokens source = runs.mapIdx (fun k s => s.token source k) ∧
      (∀ s, s ∈ runs ↔ s.IsRun source.toList) ∧
      (runs.Pairwise fun s s' => s.stop < s'.start ∧
        ∃ c, source.toList[s.stop]? = some c ∧ Text.isBlank c) ∧
      ((tokens source).Pairwise fun t t' => t.offset < t'.offset) ∧
      ∀ (i : Nat) (c : Char), source.toList[i]? = some c → Text.isBlank c = false →
        ∃! s, s ∈ runs ∧ s.Holds i := by
  obtain ⟨runs, hscan, hmem, hsorted⟩ := Token.exists_runs_of_scan {} 0 source.toList
  have htokens : tokens source = runs.mapIdx fun k s => s.token source k := by
    simp only [Span.token_eq_ofSpan, tokens, hscan, Nat.zero_add]
  refine ⟨runs, htokens, hmem, ?_, ?_, fun i c hi hc => ?_⟩
  · refine hsorted.imp_of_mem fun {s s'} hs hs' hlt => ⟨hlt, ?_⟩
    have hstop := hlt.trans ((hmem s').mp hs').start_lt_length
    exact ⟨_, List.getElem?_eq_getElem hstop,
      ((hmem s).mp hs).blank_behind _ (List.getElem?_eq_getElem hstop)⟩
  · have hoffsets : (tokens source).map Token.offset =
        runs.map fun s => (String.ofList (source.toList.take s.start)).utf8ByteSize := by
      refine List.ext_getElem? fun k => ?_
      rw [htokens, List.getElem?_map, List.getElem?_map, List.getElem?_mapIdx, Option.map_map]
      rfl
    rw [← List.pairwise_map, hoffsets, List.pairwise_map]
    refine hsorted.imp_of_mem fun {s s'} hs hs' hlt => ?_
    have hrun := (hmem s).mp hs
    have hrun' := (hmem s').mp hs'
    exact utf8ByteSize_take_lt (hrun.start_lt_stop.trans hlt) hrun'.start_lt_length.le
  · obtain ⟨s, hs, hholds⟩ := Span.exists_isRun hi hc
    refine ⟨s, ⟨(hmem s).mpr hs, hholds⟩, ?_⟩
    rintro s' ⟨hs', hholds'⟩
    exact ((hmem s').mp hs').eq_of_holds hs hholds' hholds

end PixelMath
