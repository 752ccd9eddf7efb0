import PixelMath.Proofs.Pixel.Variable
import PixelMath.Proofs.Program.Compile

/-!
# Tokens at other positions

Compiling judges tokens by their texts alone and copies index and line into its errors. So tokens
that stand elsewhere in a text compile to the same instructions, or to the same error at its new
position; and behind whole statements the tokens of further statements compile as they do alone.

## Main definitions

* `Relocation` — where tokens are put.
* `Token.relocate`, `CompileError.relocate` — a token and an error, put elsewhere.
* `compileTokens` — the program of tokens.

## Main results

* `compileTokens_map_relocate` — compiling tokens that were put elsewhere.
* `compileTokens_append_of_ok`, `compileTokens_append_of_error` — compiling tokens with further
  ones behind them.
-/

namespace PixelMath

universe u v w

/-! ### Outcomes with their errors mapped -/

section MapError

variable {ε : Type u} {α β : Type v} {γ : Type w}

theorem mapError_bind (φ : ε → ε) (x : Except ε α) (g : α → Except ε β) :
    (x >>= g).mapError φ = x.mapError φ >>= fun a => (g a).mapError φ := by
  cases x <;> rfl

/-- Outcomes whose errors are mapped one by one are collected with their error mapped. -/
theorem mapM_map_mapError (φ : ε → ε) {m : γ → γ} {g : γ → Except ε β}
    (hg : ∀ c, g (m c) = (g c).mapError φ) (cs : List γ) :
    (cs.map m).mapM g = (cs.mapM g).mapError φ := by
  induction cs with
  | nil => rfl
  | cons c cs ih =>
    rw [List.map_cons, List.mapM_cons, List.mapM_cons, hg, ih, mapError_bind]
    refine bind_congr fun b => ?_
    rw [mapError_bind]
    rfl

end MapError

/-! ### Positions -/

/-- Where tokens are put: their index, line and byte as functions of those that they had. -/
structure Relocation where
  index : Nat → Nat
  line : Nat → Nat
  offset : Nat → Nat

variable {r : Relocation}

/-- The token with the same text, put elsewhere. -/
def Token.relocate (r : Relocation) (t : Token) : Token where
  text := t.text
  index := r.index t.index
  line := r.line t.line
  offset := r.offset t.offset

/-- The same words about a token that was put elsewhere. -/
def Site.relocate (r : Relocation) (s : Site) : Site where
  text := s.text
  index := r.index s.index
  line := r.line s.line

/-- The same error about tokens that were put elsewhere. -/
def CompileError.relocate (r : Relocation) : CompileError → CompileError
  | dangling texts index line => dangling texts (r.index index) (r.line line)
  | token fault site => token fault (site.relocate r)
  | strideMismatch format? channels stride => strideMismatch format? channels stride
  | unknownFormat name => unknownFormat name

/-- The statement of tokens that were put elsewhere. -/
def Statement.relocate (r : Relocation) (s : Statement) : Statement where
  target := s.target.relocate r
  operator := s.operator.relocate r
  operand := s.operand.relocate r

variable {f : PixelFormat} {t : Token} {ts us : List Token}

theorem Symbol.resolve_relocate (site : Site) :
    resolve f (site.relocate r) = (resolve f site).mapError (CompileError.relocate r) := by
  simp only [resolve, Site.relocate]
  cases f.channelIndex? site.text with
  | some i => rfl
  | none =>
    cases positionalIndex? site.text with
    | none => cases scratchIndex? site.text <;> rfl
    | some i =>
      dsimp only
      split_ifs <;> rfl

namespace Statement

/-! ### Statements -/

theorem compileTarget_relocate :
    compileTarget f (t.relocate r) = (compileTarget f t).mapError (CompileError.relocate r) := by
  rw [compileTarget, compileTarget, mapError_bind, ← Symbol.resolve_relocate]
  refine bind_congr fun symbol? => ?_
  rcases symbol? with _ | s | c
  · dsimp only
    rw [apply_ite (Except.mapError _)]
    rfl
  · rfl
  · rfl

theorem compileOperator_relocate :
    compileOperator (t.relocate r) = (compileOperator t).mapError (CompileError.relocate r) := by
  simp only [compileOperator, Token.relocate]
  cases Operator.ofSpelling? t.text <;> rfl

theorem compileOperand_relocate :
    compileOperand f (t.relocate r) = (compileOperand f t).mapError (CompileError.relocate r) := by
  rw [compileOperand, compileOperand, mapError_bind, ← Symbol.resolve_relocate]
  refine bind_congr fun symbol? => ?_
  rcases symbol? with _ | s | c
  · simp only [Token.relocate]
    cases Numeral.value? t.text <;> rfl
  · rfl
  · rfl

/-- A statement compiles wherever its tokens stand, and its error says where they do. -/
theorem compile_relocate (s : Statement) :
    (s.relocate r).compile f = (s.compile f).mapError (CompileError.relocate r) := by
  simp only [compile, mapError_bind, relocate, compileTarget_relocate, compileOperator_relocate,
    compileOperand_relocate]
  rfl

theorem group_map_relocate (ts : List Token) :
    group (ts.map (Token.relocate r)) =
      ((group ts).1.map (relocate r), (group ts).2.map (Token.relocate r)) := by
  fun_induction group ts with
  | case1 target operator operand rest ih =>
    simp only [List.map_cons, group, ih]
    rfl
  | case2 rest h =>
    match rest with
    | [] | [_] | [_, _] => rfl
    | a :: b :: c :: rest => exact absurd rfl (h a b c rest)

/-- Behind whole statements the grouping starts anew. -/
theorem group_append (h : (group ts).2 = []) (us : List Token) :
    group (ts ++ us) = ((group ts).1 ++ (group us).1, (group us).2) := by
  fun_induction group ts with
  | case1 target operator operand rest ih =>
    simp only [List.cons_append, group, ih h]
  | case2 rest hrest =>
    cases h
    rfl

end Statement

/-! ### Programs -/

/-- The program of tokens for a format. -/
def compileTokens (f : PixelFormat) (ts : List Token) : Except CompileError Program :=
  match Statement.group ts with
  | (_, first :: rest) =>
    .error (.dangling ((first :: rest).map (·.text)) first.index first.line)
  | (statements, []) => do
    let instructions ← statements.mapM (Statement.compile f)
    return { format := f, instructions }

theorem compile_eq_compileTokens (f : PixelFormat) (source : String) :
    compile f source = compileTokens f (tokens source) := by
  rw [compile, compileTokens]
  generalize Statement.group (tokens source) = grouped
  obtain ⟨statements, _ | ⟨first, rest⟩⟩ := grouped <;> rfl

theorem compileTokens_of_group_eq_cons {first : Token} {rest : List Token}
    (h : (Statement.group ts).2 = first :: rest) :
    compileTokens f ts =
      .error (.dangling ((first :: rest).map (·.text)) first.index first.line) := by
  rw [compileTokens]
  generalize Statement.group ts = grouped at h
  obtain ⟨statements, _⟩ := grouped
  cases h
  rfl

theorem compileTokens_of_group_eq_nil (h : (Statement.group ts).2 = []) :
    compileTokens f ts = do
      let instructions ← (Statement.group ts).1.mapM (Statement.compile f)
      return { format := f, instructions } := by
  rw [compileTokens]
  generalize Statement.group ts = grouped at h ⊢
  obtain ⟨statements, _⟩ := grouped
  cases h
  rfl

/-- **Tokens compile wherever they stand**, to the same instructions or to the same error, which
says where they stand. -/
theorem compileTokens_map_relocate (r : Relocation) (ts : List Token) :
    compileTokens f (ts.map (Token.relocate r)) =
      (compileTokens f ts).mapError (CompileError.relocate r) := by
  have hgroup := Statement.group_map_relocate (r := r) ts
  cases hrest : (Statement.group ts).2 with
  | nil =>
    rw [compileTokens_of_group_eq_nil hrest, mapError_bind,
      compileTokens_of_group_eq_nil (by rw [hgroup, hrest, List.map_nil]), hgroup,
      mapM_map_mapError _ Statement.compile_relocate]
    rfl
  | cons first rest =>
    have hrest' : (Statement.group (ts.map (Token.relocate r))).2 =
        first.relocate r :: rest.map (Token.relocate r) := by rw [hgroup, hrest, List.map_cons]
    have htexts : (rest.map (Token.relocate r)).map (·.text) = rest.map (·.text) :=
      List.map_map.trans rfl
    rw [compileTokens_of_group_eq_cons hrest, compileTokens_of_group_eq_cons hrest', List.map_cons,
      htexts]
    rfl

theorem group_eq_nil_of_compileTokens_eq_ok {p : Program} (h : compileTokens f ts = .ok p) :
    (Statement.group ts).2 = [] := by
  cases hrest : (Statement.group ts).2 with
  | nil => rfl
  | cons first rest =>
    rw [compileTokens_of_group_eq_cons hrest] at h
    cases h

/-- Behind the tokens of a program, further tokens compile as they do alone. -/
theorem compileTokens_append_of_ok {p : Program} (h : compileTokens f ts = .ok p)
    (us : List Token) : compileTokens f (ts ++ us) = (compileTokens f us).map p.append := by
  have hts := group_eq_nil_of_compileTokens_eq_ok h
  have hgroup := Statement.group_append hts us
  cases hus : (Statement.group us).2 with
  | nil =>
    rw [compileTokens_of_group_eq_nil hts] at h
    obtain ⟨is, his, hp⟩ := bind_eq_ok_iff.mp h
    cases hp
    rw [compileTokens_of_group_eq_nil hus,
      compileTokens_of_group_eq_nil (by rw [hgroup, hus]), hgroup, List.mapM_append, his]
    cases (Statement.group us).1.mapM (Statement.compile f) <;> rfl
  | cons first rest =>
    rw [compileTokens_of_group_eq_cons hus, compileTokens_of_group_eq_cons (by rw [hgroup, hus])]
    rfl

/-- An error in whole statements is found before whatever statements stand behind them. -/
theorem compileTokens_append_of_error {e : CompileError} (h : compileTokens f ts = .error e)
    (hts : (Statement.group ts).2 = []) (hus : (Statement.group us).2 = []) :
    compileTokens f (ts ++ us) = .error e := by
  have hgroup := Statement.group_append hts us
  rw [compileTokens_of_group_eq_nil hts] at h
  rcases bind_eq_error_iff.mp h with his | ⟨is, -, h⟩
  · rw [compileTokens_of_group_eq_nil (by rw [hgroup, hus]), hgroup, List.mapM_append, his]
    rfl
  · cases h

end PixelMath
