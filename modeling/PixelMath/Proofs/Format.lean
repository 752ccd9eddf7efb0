import PixelMath.Format
import PixelMath.Proofs.Text.Ascii

/-!
# Names of formats

The name of a format is read without the blanks around it and whatever the case of its ASCII
letters. Here it is written down what a text without its outer blanks is, when two texts differ in
letter case alone, and which names each format has. No text is the name of two formats, so it does
not matter in which order the names are looked up.

## Main definitions

* `Text.IsTrim` — what is left of a text without its outer blanks.
* `Text.SameButCase` — texts that differ in the case of ASCII letters at most.
* `PixelFormat.IsName` — the names of a format.
* `PixelFormat.ofHostName?`, `PixelFormat.ofShortName?` — the look-ups of the two kinds of names.

## Main results

* `Text.isTrim_iff` — a text has one trimmed text.
* `PixelFormat.sameSpelling_iff` — the comparison of names.
* `PixelFormat.IsName.unique` — no name is that of two formats.
* `PixelFormat.parse_of_names` — the formats under their names, and all other texts.
-/

namespace PixelMath

namespace Text

/-! ### Outer blanks -/

/-- The text `core` is what is left of `text` without the blanks at its two ends. -/
structure IsTrim (text core : String) : Prop where
  exists_blanks : ∃ front back, text.toList = front ++ (core.toList ++ back) ∧
    (∀ c ∈ front, isBlank c) ∧ ∀ c ∈ back, isBlank c
  head_not_blank : ∀ c ∈ core.toList.head?, isBlank c = false
  last_not_blank : ∀ c ∈ core.toList.getLast?, isBlank c = false

/-- Between blanks, characters that neither begin nor end with one are what trimming leaves. -/
theorem trimBlanks_append {front core back : List Char} (hfront : ∀ c ∈ front, isBlank c)
    (hback : ∀ c ∈ back, isBlank c) (hhead : ∀ c ∈ core.head?, isBlank c = false)
    (hlast : ∀ c ∈ core.getLast?, isBlank c = false) :
    trimBlanks (front ++ (core ++ back)) = core := by
  rw [trimBlanks, List.dropWhile_append_of_pos hfront]
  cases core with
  | nil =>
    rw [List.nil_append, List.dropWhile_eq_nil_iff.mpr hback]
    rfl
  | cons c cs =>
    have hc : ¬ isBlank c := by simp [hhead c rfl]
    have hback' : ∀ d ∈ back.reverse, isBlank d := fun d hd => hback d (List.mem_reverse.mp hd)
    have hlast' : ∀ d ∈ (c :: cs).reverse.head?, isBlank d = false :=
      List.head?_reverse ▸ hlast
    rw [List.cons_append, List.dropWhile_cons_of_neg hc, ← List.cons_append, List.reverse_append,
      (takeWhile_dropWhile_append hback' hlast').2, List.reverse_reverse]

theorem isTrim_trim (text : String) : IsTrim text (trim text) := by
  have hcore : (trim text).toList = trimBlanks text.toList := String.toList_ofList
  have hfront := List.takeWhile_append_dropWhile (p := isBlank) (l := text.toList)
  have hback := List.takeWhile_append_dropWhile (p := isBlank)
    (l := (text.toList.dropWhile isBlank).reverse)
  generalize hd : text.toList.dropWhile isBlank = d at hfront hback
  have hsplit : d = trimBlanks text.toList ++ (d.reverse.takeWhile isBlank).reverse := by
    rw [trimBlanks, hd, ← List.reverse_append, hback, List.reverse_reverse]
  refine ⟨⟨text.toList.takeWhile isBlank, (d.reverse.takeWhile isBlank).reverse, ?_,
    fun _ => List.mem_takeWhile_imp, fun c hc => ?_⟩, fun c hc => ?_, fun c hc => ?_⟩
  · rw [hcore, ← hsplit, hfront]
  · exact List.mem_takeWhile_imp (List.mem_reverse.mp hc)
  · -- the first character left is the first one behind the leading blanks
    rw [hcore] at hc
    have hhead : c ∈ d.head? := by
      rw [hsplit, List.head?_append, Option.mem_def.mp hc]
      rfl
    have hnot := List.head?_dropWhile_not isBlank text.toList
    rw [hd, Option.mem_def.mp hhead] at hnot
    simpa using hnot
  · rw [hcore, trimBlanks, hd, List.getLast?_reverse] at hc
    have hnot := List.head?_dropWhile_not isBlank d.reverse
    rw [Option.mem_def.mp hc] at hnot
    simpa using hnot

/-- **A text has one trimmed text**, the one that trimming finds. -/
theorem isTrim_iff {text core : String} : IsTrim text core ↔ core = trim text := by
  refine ⟨fun h => ?_, fun h => h ▸ isTrim_trim text⟩
  obtain ⟨front, back, htext, hfront, hback⟩ := h.exists_blanks
  rw [trim, htext, trimBlanks_append hfront hback h.head_not_blank h.last_not_blank,
    String.ofList_toList]

/-! ### Letter case -/

/-- The characters are equal, or a letter of ASCII as a capital and as a small letter. -/
inductive SameLetter : Char → Char → Prop
  | refl (c : Char) : SameLetter c c
  | lower {c d : Char} (hc : 0x41 ≤ c.toNat ∧ c.toNat ≤ 0x5A) (hd : d.toNat = c.toNat + 0x20) :
      SameLetter c d
  | upper {c d : Char} (hd : 0x41 ≤ d.toNat ∧ d.toNat ≤ 0x5A) (hc : c.toNat = d.toNat + 0x20) :
      SameLetter c d

/-- The texts are equal, but for the case of letters of ASCII. -/
def SameButCase (s t : String) : Prop :=
  List.Forall₂ SameLetter s.toList t.toList

/-- A capital becomes the letter 32 places behind it. -/
theorem toNat_toLower_of_capital {c : Char} (hc : 0x41 ≤ c.toNat ∧ c.toNat ≤ 0x5A) :
    c.toLower.toNat = c.toNat + 0x20 := by
  have hupper : c.isUpper := decide_eq_true hc
  rw [Char.toLower_eq_of_isUpper hupper, Char.toNat_ofNat, if_pos (.inl (by omega))]

/-- Every other character stays as it is. -/
theorem toLower_of_not_capital {c : Char} (hc : ¬(0x41 ≤ c.toNat ∧ c.toNat ≤ 0x5A)) :
    c.toLower = c :=
  (toLower_eq_or c).resolve_right fun h => hc ⟨h.1, h.2.1⟩

theorem toLower_eq_toLower_iff {c d : Char} : c.toLower = d.toLower ↔ SameLetter c d := by
  constructor
  · intro h
    rcases toLower_eq_or c with hc | ⟨hclow, hchigh, hc⟩
    · rcases toLower_eq_or d with hd | ⟨hdlow, hdhigh, hd⟩
      · rw [hc, hd] at h
        exact h ▸ .refl c
      · exact .upper ⟨hdlow, hdhigh⟩ (by rw [← hd, ← h, hc])
    · rcases toLower_eq_or d with hd | ⟨hdlow, hdhigh, hd⟩
      · exact .lower ⟨hclow, hchigh⟩ (by rw [← hc, h, hd])
      · have hnat : c.toNat = d.toNat := by
          rw [h] at hc
          omega
        exact Char.toNat_inj.mp hnat ▸ .refl c
  · intro h
    cases h with
    | refl => rfl
    | lower hc hd =>
      refine Char.toNat_inj.mp ?_
      rw [toNat_toLower_of_capital hc, toLower_of_not_capital (by omega), hd]
    | upper hd hc =>
      refine Char.toNat_inj.mp ?_
      rw [toNat_toLower_of_capital hd, toLower_of_not_capital (by omega), hc]

theorem sameButCase_iff {s t : String} :
    SameButCase s t ↔ s.toList.map Char.toLower = t.toList.map Char.toLower := by
  rw [← List.forall₂_eq_eq_eq, List.forall₂_map_left_iff, List.forall₂_map_right_iff]
  simp only [toLower_eq_toLower_iff]
  rfl

theorem SameLetter.isAscii {c d : Char} (h : SameLetter c d) (hd : IsAscii d) : IsAscii c := by
  rw [IsAscii] at *
  cases h with
  | refl => exact hd
  | lower hc hd => omega
  | upper hd hc => omega

/-- A text that differs from one of ASCII in letter case alone is of ASCII as well. -/
theorem SameButCase.isAscii {s t : String} (h : SameButCase s t) (ht : ∀ c ∈ t.toList, IsAscii c) :
    ∀ c ∈ s.toList, IsAscii c := by
  rw [SameButCase] at h
  generalize s.toList = cs at h
  generalize t.toList = ds at h ht
  induction h with
  | nil => exact ht
  | cons hfirst _ ih =>
    rw [List.forall_mem_cons] at ht ⊢
    exact ⟨hfirst.isAscii ht.1, ih ht.2⟩

end Text

namespace PixelFormat

/-! ### Names -/

/-- The names of a format: its short name, the name that an image host gives to it, and for three of
the formats further ones. -/
inductive IsName : PixelFormat → String → Prop
  | short (f : PixelFormat) : IsName f f.name
  | host {f : PixelFormat} {name : String} (h : f.hostName? = some name) : IsName f name
  | labAlpha : IsName laba "lab+a"
  | lchAlpha : IsName lcha "lch(ab)a"
  | lchHost : IsName lcha "lch(ab)"
  | raw : IsName raw4 "raw"

variable {f g : PixelFormat} {name : String}

theorem isName_iff : f.IsName name ↔ name ∈ f.spellings := by
  rw [spellings, List.mem_append, List.mem_cons, Option.mem_toList]
  constructor
  · intro h
    cases h with
    | short => exact .inr (.inl rfl)
    | host h => exact .inl h
    | labAlpha | lchAlpha | lchHost | raw => exact .inr (.inr (by decide))
  · rintro (h | rfl | h)
    · exact .host h
    · exact .short f
    · cases f with
      | laba => exact List.mem_singleton.mp h ▸ .labAlpha
      | lcha =>
        rcases List.mem_pair.mp h with rfl | rfl
        · exact .lchAlpha
        · exact .lchHost
      | raw4 => exact List.mem_singleton.mp h ▸ .raw
      | _ => exact absurd h List.not_mem_nil

/-- Names are compared letter by letter, with the case of ASCII letters left aside. -/
theorem sameSpelling_iff {s t : String} : sameSpelling s t ↔ Text.SameButCase s t := by
  rw [sameSpelling, decide_eq_true_eq, Text.sameButCase_iff, ← String.toList_inj, String.toLower,
    String.toLower, String.toList_map, String.toList_map]

theorem IsName.isAscii (h : f.IsName name) : ∀ c ∈ name.toList, Text.IsAscii c := by
  have hall : ∀ name ∈ f.spellings, name.toList.all fun c => decide (Text.IsAscii c) := by
    cases f <;> decide
  exact List.all_iff_forall_prop.mp (hall name (isName_iff.mp h))

/-- **No text is a name of two formats**, whatever the case of its letters. -/
theorem IsName.unique {text name' : String} (hf : f.IsName name) (hg : g.IsName name')
    (h : Text.SameButCase text name) (h' : Text.SameButCase text name') : f = g := by
  have hall : ∀ f ∈ all, ∀ g ∈ all, ∀ name ∈ f.spellings, ∀ name' ∈ g.spellings,
      name.toList.map Char.toLower = name'.toList.map Char.toLower → f = g := by
    decide +kernel
  rw [Text.sameButCase_iff] at h h'
  exact hall f f.mem_all g g.mem_all name (isName_iff.mp hf) name' (isName_iff.mp hg)
    (h.symm.trans h')

/-! ### Look-ups -/

/-- The format to which an image host gives the name. -/
def ofHostName? (name : String) : Option PixelFormat :=
  all.find? (·.hostName?.toList.any (sameSpelling name))

/-- The format with the short name. -/
def ofShortName? (name : String) : Option PixelFormat :=
  all.find? fun f => (f.name :: f.extraNames).any (sameSpelling name)

/-- A search by some of the names of each format finds the one format with the name that is looked
for. -/
theorem find?_names_eq_some_iff {names : PixelFormat → List String}
    (hnames : ∀ f, ∀ name ∈ names f, f.IsName name) {text : String} :
    all.find? (fun f => (names f).any (sameSpelling text)) = some f ↔
      ∃ name ∈ names f, Text.SameButCase text name := by
  have hany (f : PixelFormat) :
      (names f).any (sameSpelling text) ↔ ∃ name ∈ names f, Text.SameButCase text name := by
    simp only [List.any_eq_true, sameSpelling_iff]
  constructor
  · intro h
    exact (hany f).mp (List.find?_some (p := fun f => (names f).any (sameSpelling text)) h)
  · rintro ⟨name, hname, h⟩
    cases hfind : all.find? fun f => (names f).any (sameSpelling text) with
    | none => exact absurd ((hany f).mpr ⟨name, hname, h⟩) (List.find?_eq_none.mp hfind f f.mem_all)
    | some g =>
      obtain ⟨name', hname', h'⟩ := (hany g).mp
        (List.find?_some (p := fun f => (names f).any (sameSpelling text)) hfind)
      rw [(hnames f name hname).unique (hnames g name' hname') h h']

theorem isName_of_mem_hostName? (h : name ∈ f.hostName?.toList) : f.IsName name :=
  isName_iff.mpr (List.mem_append_left _ h)

theorem isName_of_mem_shortNames (h : name ∈ f.name :: f.extraNames) : f.IsName name :=
  isName_iff.mpr (List.mem_append_right _ h)

/-- Two look-ups that do not contradict each other find the same in either order. -/
theorem orElse_eq_some_iff {α : Type} {a b : Option α}
    (h : ∀ x y, a = some x → b = some y → x = y) {z : α} :
    (a <|> b) = some z ↔ a = some z ∨ b = some z := by
  cases a with
  | none => simp
  | some x =>
    cases b with
    | none => simp
    | some y => simp [h x y rfl rfl]

variable {text : String}

/-- The two look-ups find a format under its names, whichever comes first. -/
theorem lookUps_eq_some_iff :
    ((ofHostName? text <|> ofShortName? text) = some f ↔
        ∃ name, f.IsName name ∧ Text.SameButCase text name) ∧
      ((ofShortName? text <|> ofHostName? text) = some f ↔
        ∃ name, f.IsName name ∧ Text.SameButCase text name) := by
  have hhost (f : PixelFormat) : ofHostName? text = some f ↔
      ∃ name ∈ f.hostName?.toList, Text.SameButCase text name :=
    find?_names_eq_some_iff fun _ _ => isName_of_mem_hostName?
  have hshort (f : PixelFormat) : ofShortName? text = some f ↔
      ∃ name ∈ f.name :: f.extraNames, Text.SameButCase text name :=
    find?_names_eq_some_iff fun _ _ => isName_of_mem_shortNames
  have hagree (f g : PixelFormat) (hf : ofHostName? text = some f)
      (hg : ofShortName? text = some g) : f = g := by
    obtain ⟨_, hname, h⟩ := (hhost f).mp hf
    obtain ⟨_, hname', h'⟩ := (hshort g).mp hg
    exact (isName_of_mem_hostName? hname).unique (isName_of_mem_shortNames hname') h h'
  have hnames : (ofHostName? text = some f ∨ ofShortName? text = some f) ↔
      ∃ name, f.IsName name ∧ Text.SameButCase text name := by
    rw [hhost, hshort, ← exists_or]
    refine exists_congr fun name => ?_
    rw [isName_iff, spellings, List.mem_append, or_and_right]
  refine ⟨(orElse_eq_some_iff hagree).trans hnames, ?_⟩
  rw [orElse_eq_some_iff fun f g hf hg => (hagree g f hg hf).symm, or_comm, hnames]

theorem parse_eq_ok_iff :
    parse text = .ok f ↔ ∃ name, f.IsName name ∧ Text.SameButCase (Text.trim text) name := by
  have hfind : all.find? (·.spellings.any (sameSpelling (Text.trim text))) = some f ↔
      ∃ name ∈ f.spellings, Text.SameButCase (Text.trim text) name :=
    find?_names_eq_some_iff fun _ _ => isName_iff.mpr
  simp only [isName_iff, ← hfind, parse]
  cases all.find? (·.spellings.any (sameSpelling (Text.trim text))) <;> simp

/-- A text that is no name of a format is given back without its outer blanks. -/
theorem parse_eq_error_iff {e : FormatError} :
    parse text = .error e ↔
      (∀ (f : PixelFormat) (name : String), f.IsName name →
        ¬ Text.SameButCase (Text.trim text) name) ∧ e = .unsupported (Text.trim text) := by
  have hunnamed : (∀ (f : PixelFormat) (name : String), f.IsName name →
      ¬ Text.SameButCase (Text.trim text) name) ↔ ∀ f, parse text ≠ .ok f := by
    simp only [ne_eq, parse_eq_ok_iff, not_exists, not_and]
  rw [hunnamed, parse]
  cases all.find? (·.spellings.any (sameSpelling (Text.trim text))) with
  | none => simp [eq_comm]
  | some f => simp

/-- **Which texts name a format.** What counts of a text is what is left of it without its outer
blanks. The text names a format exactly if this is one of the names of the format, but for the case
of ASCII letters, and then it names no other format, so that the names given by image hosts and the
short names may be looked up in either order. Any other text is refused and given back without its
outer blanks, in its own letter case; this holds of every text with a character outside ASCII among
those that count. -/
theorem parse_of_names (text : String) :
    (∀ core, Text.IsTrim text core ↔ core = Text.trim text) ∧
      (∀ f, parse text = .ok f ↔
        ∃ name, f.IsName name ∧ Text.SameButCase (Text.trim text) name) ∧
      (∀ (f g : PixelFormat) (name name' : String), f.IsName name → g.IsName name' →
        Text.SameButCase (Text.trim text) name → Text.SameButCase (Text.trim text) name' → f = g) ∧
      (∀ f, parse text = .ok f ↔
        (ofHostName? (Text.trim text) <|> ofShortName? (Text.trim text)) = some f) ∧
      (∀ f, parse text = .ok f ↔
        (ofShortName? (Text.trim text) <|> ofHostName? (Text.trim text)) = some f) ∧
      (∀ e, parse text = .error e ↔
        (∀ (f : PixelFormat) (name : String), f.IsName name →
          ¬ Text.SameButCase (Text.trim text) name) ∧ e = .unsupported (Text.trim text)) ∧
      ((∃ c ∈ (Text.trim text).toList, ¬ Text.IsAscii c) →
        parse text = .error (.unsupported (Text.trim text))) := by
  refine ⟨fun core => Text.isTrim_iff, fun f => parse_eq_ok_iff,
    fun f g name name' hf hg h h' => hf.unique hg h h',
    fun f => parse_eq_ok_iff.trans lookUps_eq_some_iff.1.symm,
    fun f => parse_eq_ok_iff.trans lookUps_eq_some_iff.2.symm, fun e => parse_eq_error_iff, ?_⟩
  rintro ⟨c, hc, hascii⟩
  exact parse_eq_error_iff.mpr ⟨fun f name hname h => hascii (h.isAscii hname.isAscii c hc), rfl⟩

example : parse "\u2003cie LAB Alpha double\n" = .ok laba :=
  parse_eq_ok_iff.mpr
    ⟨"CIE Lab alpha double", .host rfl, Text.sameButCase_iff.mpr (by decide +kernel)⟩

end PixelFormat

end PixelMath
