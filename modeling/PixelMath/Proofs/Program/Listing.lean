import PixelMath.Proofs.Program.Compile
import PixelMath.Proofs.Token

/-!
# Listings are program text

A listing is compiled back to the program it lists. Each of its lines holds three words, the names
of a target, an operator and an operand, and each name leads back to what it names: the letters of
a format hide no listed name, every operator is found under its own name, and the digits of a
finite double read as this double. Only an infinite double has a name that no program may use.

## Main definitions

* `PlainWord` — texts that are tokens as they stand.
* `Statement.Lists`, `Listed` — the statements that the lines of a listing give.

## Main results

* `listed_group` — the tokens of a listing are those of its lines.
* `Statement.Lists.compile_of_isFinite`, `Statement.Lists.compile_of_isInf` — a line compiled.
* `compile_listing` — the round trip and where it ends.
-/

namespace PixelMath

/-! ### Words of a listing -/

/-- A text of plain characters, with at least one of them: a token that lower-casing leaves as it
is. -/
structure PlainWord (text : String) : Prop where
  ne_nil : text.toList ≠ []
  plain : ∀ c ∈ text.toList, Text.IsPlain c

namespace PlainWord

variable {text : String}

theorem isWord (h : PlainWord text) : IsWord text.toList :=
  isWord_of_plain h.ne_nil h.plain

/-- A text given by its characters is tested character by character. -/
theorem of_all (hne : text ≠ "")
    (h : text.toList.all fun c => decide (Text.IsPlain c)) : PlainWord text :=
  ⟨mt String.toList_eq_nil_iff.mp hne,
    fun c hc => of_decide_eq_true (List.all_eq_true.mp h c hc)⟩

theorem slot_name (s : Slot) : PlainWord s.name := by
  cases s with
  | channel i => exact of_all (by revert i; decide) (by revert i; decide)
  | scratch i => exact of_all (by revert i; decide) (by revert i; decide)

theorem constant_name (c : Constant) : PlainWord c.name := by
  cases c <;> exact of_all (by decide) (by decide)

theorem operator_name (op : Operator) : PlainWord op.name := by
  cases op <;> exact of_all (by decide) (by decide)

/-- The text of a double that is a number is a plain word; that of an infinity is one as well. -/
theorem floatText {x : Float} (hx : x.isNaN = false) : PlainWord (floatText x) := by
  by_cases hf : x.isFinite
  · refine ⟨fun hnil => ?_, fun c hc => ?_⟩
    · have hvalue := Numeral.value?_floatText hf
      have hnone : Numeral.value? "" = none := rfl
      rw [String.toList_eq_nil_iff.mp hnil, hnone] at hvalue
      cases hvalue
    · rcases mem_floatText hf hc with hdigit | rfl | rfl
      · exact Text.isPlain_of_isDigit hdigit
      · decide
      · decide
  · rw [floatText_of_isInf (isInf_of_not_isFinite hx hf)]
    split_ifs <;> exact of_all (by decide) (by decide)

theorem operand_text {o : Operand} (ho : ∀ x, o = .literal x → x.isNaN = false) :
    PlainWord o.text := by
  cases o with
  | slot s => exact slot_name s
  | literal x => exact floatText (ho x rfl)
  | constant c => exact constant_name c

/-- A plain word is its own token. -/
theorem scan_append (h : PlainWord text) (p : Place) (n : Nat) (rest : List Char)
    (hr : ∀ c ∈ rest.head?, Text.isBlank c) :
    ∃ t : Token, t.toSite = ⟨text, n, p.line⟩ ∧
      Token.scan p n (text.toList ++ rest) =
        t :: Token.scan (p.after text.toList) (n + 1) rest := by
  refine ⟨⟨⟨text, n, p.line⟩, p.offset⟩, rfl, ?_⟩
  rw [Token.scan_word_append h.isWord hr, Text.lowerChars_of_plain h.plain, String.ofList_toList]

end PlainWord

/-! ### Lines of a listing -/

/-- The statement names the parts of the instruction, in tokens numbered from `index` on and on
one line. -/
structure Statement.Lists (index line : Nat) (i : Instruction) (s : Statement) : Prop where
  target : s.target.toSite = ⟨i.target.name, index, line⟩
  operator : s.operator.toSite = ⟨i.operator.name, index + 1, line⟩
  operand : s.operand.toSite = ⟨i.operand.text, index + 2, line⟩

/-- The statements list the instructions in order, one on each line. -/
inductive Listed : Nat → Nat → List Instruction → List Statement → Prop
  | nil (index line : Nat) : Listed index line [] []
  | cons {index line : Nat} {i : Instruction} {s : Statement} {is : List Instruction}
      {ss : List Statement} (first : s.Lists index line i)
      (rest : Listed (index + 3) (line + 1) is ss) : Listed index line (i :: is) (s :: ss)

theorem Instruction.toList_text (i : Instruction) :
    i.text.toList =
      i.target.name.toList ++ ' ' :: (i.operator.name.toList ++ ' ' :: i.operand.text.toList) := by
  rw [text]
  simp only [String.toList_append, List.append_assoc]
  rfl

/-- The characters of a listing, line by line. -/
theorem Program.toList_listing (p : Program) :
    p.listing.toList = p.instructions.flatMap fun i => i.text.toList ++ ['\n'] := by
  rw [listing, String.toList_join, List.flatMap_map]
  simp only [String.toList_append]
  rfl

theorem scan_blank_cons {p : Place} {n : Nat} {c : Char} (hc : Text.isBlank c) (cs : List Char) :
    Token.scan p n (c :: cs) = Token.scan (p.next c) n cs :=
  Token.scan_blanks_append (g := [c]) (by simpa using hc) cs

/-- The line of an instruction gives its three words, and the text goes on a line further down. -/
theorem scan_line (p : Place) (n : Nat) {i : Instruction}
    (hi : ∀ x, i.operand = .literal x → x.isNaN = false) (rest : List Char) :
    ∃ (s : Statement) (p' : Place), s.Lists n p.line i ∧ p'.line = p.line + 1 ∧
      Token.scan p n (i.text.toList ++ '\n' :: rest) =
        s.target :: s.operator :: s.operand :: Token.scan p' (n + 3) rest := by
  have hspace : Text.isBlank ' ' := by decide
  have hbreak : Text.isBlank '\n' := by decide
  have htarget := PlainWord.slot_name i.target
  have hoperator := PlainWord.operator_name i.operator
  have hoperand := PlainWord.operand_text hi
  -- the places behind the three words, each a blank away from the next word
  obtain ⟨t, ht, htscan⟩ := htarget.scan_append p n
    (' ' :: (i.operator.name.toList ++ ' ' :: (i.operand.text.toList ++ '\n' :: rest)))
    (by simpa using hspace)
  set p₁ := (p.after i.target.name.toList).next ' ' with hp₁
  have hline₁ : p₁.line = p.line := htarget.isWord.line_after p
  obtain ⟨o, ho, hoscan⟩ := hoperator.scan_append p₁ (n + 1)
    (' ' :: (i.operand.text.toList ++ '\n' :: rest)) (by simpa using hspace)
  set p₂ := (p₁.after i.operator.name.toList).next ' ' with hp₂
  have hline₂ : p₂.line = p.line := (hoperator.isWord.line_after p₁).trans hline₁
  obtain ⟨x, hx, hxscan⟩ := hoperand.scan_append p₂ (n + 2) ('\n' :: rest)
    (by simpa using hbreak)
  refine ⟨⟨t, o, x⟩, (p₂.after i.operand.text.toList).next '\n', ⟨ht, ?_, ?_⟩, ?_, ?_⟩
  · rw [ho, hline₁]
  · rw [hx, hline₂]
  · rw [← hline₂, ← hoperand.isWord.line_after p₂]
    rfl
  · rw [Instruction.toList_text]
    simp only [List.append_assoc, List.cons_append]
    rw [htscan, scan_blank_cons hspace, ← hp₁, hoscan, scan_blank_cons hspace, ← hp₂, hxscan,
      scan_blank_cons hbreak]

/-- The tokens of a listing form one statement for each line. -/
theorem listed_group {is : List Instruction}
    (his : ∀ i ∈ is, ∀ x, i.operand = .literal x → x.isNaN = false) (p : Place) (n : Nat) :
    Listed n p.line is
        (Statement.group (Token.scan p n (is.flatMap fun i => i.text.toList ++ ['\n']))).1 ∧
      (Statement.group (Token.scan p n (is.flatMap fun i => i.text.toList ++ ['\n']))).2 = [] := by
  induction is generalizing p n with
  | nil =>
    have hnil : Token.scan p n [] = [] := Token.scan_of_dropWhile_eq_nil rfl
    rw [List.flatMap_nil, hnil]
    exact ⟨.nil n p.line, rfl⟩
  | cons i is ih =>
    obtain ⟨s, p', hs, hline, hscan⟩ := scan_line p n (his i List.mem_cons_self)
      (is.flatMap fun i => i.text.toList ++ ['\n'])
    obtain ⟨hlisted, hrest⟩ := ih (fun j hj => his j (List.mem_cons_of_mem _ hj)) p' (n + 3)
    rw [hline] at hlisted
    rw [List.flatMap_cons, List.append_assoc, List.singleton_append, hscan, Statement.group]
    exact ⟨.cons hs hlisted, hrest⟩

/-! ### Lines compiled -/

theorem Operator.ofSpelling?_name (op : Operator) : ofSpelling? op.name = some op := by
  cases op <;> decide

variable {f : PixelFormat} {index line : Nat}

namespace Statement.Lists

variable {i : Instruction} {s : Statement} {x : Float}

theorem compileTarget_eq (h : s.Lists index line i) (hi : i.target.Fits f.channels) :
    compileTarget f s.target = .ok i.target :=
  compileTarget_eq_ok_iff.mpr
    (Symbol.resolve_slot_name hi (congrArg Site.text h.target))

theorem compileOperator_eq (h : s.Lists index line i) :
    compileOperator s.operator = .ok i.operator := by
  have htext : s.operator.text = i.operator.name := congrArg Site.text h.operator
  rw [compileOperator_eq_ok_iff, htext]
  exact i.operator.ofSpelling?_name

/-- The line of an instruction without an infinite literal compiles to the instruction. -/
theorem compile_of_isFinite (h : s.Lists index line i) (hi : i.Fits f.channels)
    (hx : ∀ x, i.operand = .literal x → x.isFinite) : s.compile f = .ok i := by
  refine Statement.compile_eq_ok_iff.mpr
    ⟨h.compileTarget_eq hi.1, h.compileOperator_eq, compileOperand_eq_ok_iff.mpr ?_⟩
  have htext : s.operand.text = i.operand.text := congrArg Site.text h.operand
  have hfits := hi.2
  cases ho : i.operand with
  | slot slot =>
    rw [ho] at htext hfits
    exact Symbol.resolve_slot_name hfits htext
  | constant c =>
    rw [ho] at htext
    exact Symbol.resolve_constant_name htext
  | literal x =>
    rw [ho] at htext
    have hvalue : Numeral.value? s.operand.text = some x := by
      rw [htext]
      exact Numeral.value?_floatText (hx x ho)
    refine ⟨Symbol.resolve_of_isSome_decimal? ?_, hvalue⟩
    obtain ⟨d, hd, -⟩ := Option.map_eq_some_iff.mp hvalue
    exact Option.isSome_of_mem hd

/-- The name of an infinite double is no operand: it is no symbol of any format, and no numeral. -/
theorem compileOperand_of_isInf (h : s.Lists index line i) (ho : i.operand = .literal x)
    (hx : x.isInf) :
    compileOperand f s.operand =
      .error (.token (if x < 0 then .malformedNumber else .unknownIdentifier)
        ⟨if x < 0 then "-inf" else "inf", index + 2, line⟩) := by
  have hsite : s.operand.toSite = ⟨if x < 0 then "-inf" else "inf", index + 2, line⟩ := by
    rw [h.operand, ho, ← floatText_of_isInf hx]
    rfl
  have htext : s.operand.text = if x < 0 then "-inf" else "inf" := congrArg Site.text hsite
  have hresolve : Symbol.resolve f s.operand.toSite = .ok none := by
    refine Symbol.resolve_of_not_mem_spellings ?_
    rw [htext]
    split_ifs <;> decide
  have hvalue : Numeral.value? s.operand.text = none := by
    rw [htext]
    split_ifs <;> rfl
  have hfault : unresolved s.operand.text =
      if x < 0 then .malformedNumber else .unknownIdentifier := by
    rw [htext]
    split_ifs <;> decide
  rw [compileOperand_of_none hresolve hvalue, hfault, hsite]

/-- The line of an instruction with an infinite literal fails at its third token. -/
theorem compile_of_isInf (h : s.Lists index line i) (hi : i.Fits f.channels)
    (ho : i.operand = .literal x) (hx : x.isInf) :
    s.compile f = .error (.token (if x < 0 then .malformedNumber else .unknownIdentifier)
      ⟨if x < 0 then "-inf" else "inf", index + 2, line⟩) := by
  rw [Statement.compile, h.compileTarget_eq hi.1, h.compileOperator_eq,
    h.compileOperand_of_isInf ho hx]
  rfl

end Statement.Lists

/-! ### Listings compiled -/

namespace Listed

variable {is : List Instruction} {ss : List Statement}

theorem forall₂_compile (h : Listed index line is ss) (hi : ∀ i ∈ is, i.Fits f.channels)
    (hx : ∀ i ∈ is, ∀ x, i.operand = .literal x → x.isFinite) :
    List.Forall₂ (fun s i => Statement.compile f s = .ok i) ss is := by
  induction h with
  | nil => exact .nil
  | cons first rest ih =>
    refine .cons (first.compile_of_isFinite (hi _ List.mem_cons_self) (hx _ List.mem_cons_self))
      (ih (fun i h => hi i (List.mem_cons_of_mem _ h)) fun i h => hx i (List.mem_cons_of_mem _ h))

/-- Compiling stops at the first infinite literal: the instructions in front of it compile, and
its own line does not. -/
theorem mapM_compile (h : Listed index line is ss) (hi : ∀ i ∈ is, i.Fits f.channels)
    {k : Nat} {x : Float} (hk : is[k]?.map Instruction.operand = some (.literal x)) (hx : x.isInf)
    (hfirst : ∀ j < k, ∀ y, is[j]?.map Instruction.operand = some (.literal y) → y.isFinite) :
    ss.mapM (Statement.compile f) =
      .error (.token (if x < 0 then .malformedNumber else .unknownIdentifier)
        ⟨if x < 0 then "-inf" else "inf", index + (3 * k + 2), line + k⟩) := by
  induction h generalizing k with
  | nil => exact absurd hk (by simp)
  | @cons index line i s is ss first rest ih =>
    cases k with
    | zero =>
      have ho := Option.some.inj hk
      rw [List.mapM_cons, first.compile_of_isInf (hi _ List.mem_cons_self) ho hx]
      rfl
    | succ k =>
      have hhead := first.compile_of_isFinite (hi _ List.mem_cons_self)
        fun y hy => hfirst 0 (Nat.succ_pos k) y (congrArg some hy)
      have htail := ih (fun i h => hi i (List.mem_cons_of_mem _ h)) hk
        fun j hj => hfirst (j + 1) (Nat.succ_lt_succ hj)
      have hindex : index + 3 + (3 * k + 2) = index + (3 * (k + 1) + 2) := by omega
      have hline : line + 1 + k = line + (k + 1) := by omega
      rw [hindex, hline] at htail
      rw [List.mapM_cons, hhead, htail]
      rfl

end Listed

/-- **The listing of a compiled program.** When every literal is finite, the listing compiles to the
same program, so that listing it again changes nothing. A literal is finite or infinite, and the
first infinite one makes the listing fail to compile: a positive infinity at its name, which is no
identifier, and a negative one at a name that starts like a number. -/
theorem compile_listing {source : String} {p : Program} (h : compile f source = .ok p) :
    ((∀ i ∈ p.instructions, ∀ x, i.operand = .literal x → x.isFinite) →
      compile f p.listing = .ok p ∧
        (compile f p.listing).map Program.listing = .ok p.listing) ∧
      (∀ i ∈ p.instructions, ∀ x, i.operand = .literal x → x.isFinite ∨ x.isInf) ∧
      ∀ (k : Nat) (x : Float),
        p.instructions[k]?.map Instruction.operand = some (.literal x) → x.isInf →
        (∀ j < k, ∀ y, p.instructions[j]?.map Instruction.operand = some (.literal y) →
          ¬ y.isInf) →
        compile f p.listing =
          .error (.token (if x < 0 then .malformedNumber else .unknownIdentifier)
            ⟨if x < 0 then "-inf" else "inf", 3 * k + 2, k + 1⟩) := by
  have hfits : ∀ i ∈ p.instructions, i.Fits f.channels := fun i hi => fits_of_compile h hi
  have hnan : ∀ i ∈ p.instructions, ∀ x, i.operand = .literal x → x.isNaN = false :=
    fun i hi x hx => isNaN_of_compile h hi hx
  obtain ⟨hlisted, hrest⟩ := listed_group hnan {} 0
  rw [← Program.toList_listing] at hlisted hrest
  refine ⟨fun hfinite => ?_, fun i hi x hx => ?_, fun k x hk hx hfirst => ?_⟩
  · have hcompile : compile f p.listing = .ok p := compile_eq_ok_iff.mpr
      ⟨hrest, (compile_eq_ok_iff.mp h).2.1, hlisted.forall₂_compile hfits hfinite⟩
    exact ⟨hcompile, by rw [hcompile]; rfl⟩
  · by_cases hf : x.isFinite
    · exact .inl hf
    · exact .inr (isInf_of_not_isFinite (hnan i hi x hx) hf)
  · have hfinite : ∀ j < k, ∀ y,
        p.instructions[j]?.map Instruction.operand = some (.literal y) → y.isFinite := by
      intro j hj y hy
      obtain ⟨i, hi, ho⟩ := Option.map_eq_some_iff.mp hy
      exact isFinite_of_not_isInf (hnan i (List.mem_of_getElem? hi) y ho) (hfirst j hj y hy)
    have hfail := hlisted.mapM_compile hfits hk hx hfinite
    have hline : (1 : Nat) + k = k + 1 := Nat.add_comm 1 k
    rw [Nat.zero_add, hline] at hfail
    rw [compile_of_group hrest, tokens, hfail]
    rfl

/-- A negative zero keeps its sign in a listing; a numeral past the largest double is refused there,
at the third token of its line. -/
theorem compile_listing_negative_zero :
    compile .rgb "R set -0" =
        .ok ⟨.rgb, [⟨.channel 0, .set, .literal (.ofBits 0x8000000000000000)⟩]⟩ ∧
      compile .rgb
          (Program.listing ⟨.rgb, [⟨.channel 0, .set, .literal (.ofBits 0x8000000000000000)⟩]⟩) =
        .ok ⟨.rgb, [⟨.channel 0, .set, .literal (.ofBits 0x8000000000000000)⟩]⟩ ∧
      compile .rgb "v abs r g *= -1e999" =
        .ok ⟨.rgb, [⟨.scratch 0, .abs, .slot (.channel 0)⟩,
          ⟨.channel 1, .mul, .literal (.ofBits 0xFFF0000000000000)⟩]⟩ ∧
      compile .rgb (Program.listing ⟨.rgb, [⟨.scratch 0, .abs, .slot (.channel 0)⟩,
          ⟨.channel 1, .mul, .literal (.ofBits 0xFFF0000000000000)⟩]⟩) =
        .error (.token .malformedNumber ⟨"-inf", 5, 2⟩) := by
  have hzero : compile .rgb "R set -0" =
      .ok ⟨.rgb, [⟨.channel 0, .set, .literal (.ofBits 0x8000000000000000)⟩]⟩ := by
    decide +kernel
  have hinf : compile .rgb "v abs r g *= -1e999" =
      .ok ⟨.rgb, [⟨.scratch 0, .abs, .slot (.channel 0)⟩,
        ⟨.channel 1, .mul, .literal (.ofBits 0xFFF0000000000000)⟩]⟩ := by
    decide +kernel
  have hnegative : Float.ofBits 0xFFF0000000000000 < 0 := by decide
  refine ⟨hzero, ((compile_listing hzero).1 fun i hi x hx => ?_).1, hinf, ?_⟩
  · obtain rfl := List.mem_singleton.mp hi
    cases hx
    rfl
  · have hfail := (compile_listing hinf).2.2 1 (.ofBits 0xFFF0000000000000) rfl rfl ?_
    · rw [hfail]
      simp only [if_pos hnegative]
    · intro j hj y hy
      obtain rfl : j = 0 := by omega
      cases hy

end PixelMath
