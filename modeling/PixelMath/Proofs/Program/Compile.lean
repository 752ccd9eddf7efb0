import PixelMath.Program.Compile
import PixelMath.Proofs.Number.Numeral
import PixelMath.Proofs.Symbol

/-!
# What is compiled

A text compiles exactly when its tokens form whole statements and each statement compiles on its
own: the target names a slot, the operator is a spelling, and the operand names a symbol or is a
numeral. So the slots of a compiled program are slots of its format, and its literals are numbers
or infinities.

## Main results

* `compile_eq_ok_iff`, `Statement.compile_eq_ok_iff` — what it takes to compile.
* `Statement.compileTarget_eq_ok_iff`, `Statement.compileOperator_eq_ok_iff`,
  `Statement.compileOperand_eq_ok_iff` — the three roles of a token.
* `fits_of_compile`, `isNaN_of_compile` — the slots and the literals of a compiled program.
* `compileStrided_eq_ok_iff`, `compileStrided_eq_error_iff` — compiling for a declared stride.
-/

namespace PixelMath

universe u v w

section Except

variable {ε : Type u} {α β : Type v}

theorem bind_eq_ok_iff {x : Except ε α} {g : α → Except ε β} {b : β} :
    x >>= g = .ok b ↔ ∃ a, x = .ok a ∧ g a = .ok b := by
  cases x with
  | error e =>
    refine iff_of_false (fun h => nomatch h) ?_
    rintro ⟨a, h, -⟩
    cases h
  | ok a =>
    refine ⟨fun h => ⟨a, rfl, h⟩, ?_⟩
    rintro ⟨a', h, hb⟩
    cases h
    exact hb

theorem bind_eq_error_iff {x : Except ε α} {g : α → Except ε β} {e : ε} :
    x >>= g = .error e ↔ x = .error e ∨ ∃ a, x = .ok a ∧ g a = .error e := by
  cases x with
  | error e' =>
    refine ⟨fun h => .inl ?_, fun h => ?_⟩
    · cases h
      rfl
    · rcases h with h | ⟨a, h, -⟩ <;> cases h
      rfl
  | ok a =>
    refine ⟨fun h => .inr ⟨a, rfl, h⟩, fun h => ?_⟩
    rcases h with h | ⟨a', h, he⟩ <;> cases h
    exact he

end Except

/-- Outcomes that may fail are collected when none of them fails. -/
theorem mapM_eq_ok_iff {ε : Type u} {α : Type w} {β : Type v} {g : α → Except ε β} {xs : List α}
    {ys : List β} : xs.mapM g = .ok ys ↔ List.Forall₂ (fun x y => g x = .ok y) xs ys := by
  induction xs generalizing ys with
  | nil =>
    rw [List.mapM_nil, List.forall₂_nil_left_iff]
    exact ⟨fun h => (Except.ok.inj h).symm, fun h => congrArg Except.ok h.symm⟩
  | cons x xs ih =>
    simp only [List.mapM_cons, bind_eq_ok_iff, List.forall₂_cons_left_iff, ih]
    refine ⟨?_, ?_⟩
    · rintro ⟨y, hy, ys', hys, h⟩
      exact ⟨y, ys', hy, hys, (Except.ok.inj h).symm⟩
    · rintro ⟨y, ys', hy, hys, rfl⟩
      exact ⟨y, hy, ys', hys, rfl⟩

/-- Where collecting fails, it fails with the first outcome that does. -/
theorem exists_of_mapM_eq_error {ε : Type u} {α : Type w} {β : Type v} {g : α → Except ε β}
    {xs : List α} {e : ε} (h : xs.mapM g = .error e) :
    ∃ (k : Nat) (x : α), xs[k]? = some x ∧ g x = .error e ∧
      ∀ j < k, ∀ y, xs[j]? = some y → ∃ b, g y = .ok b := by
  induction xs with
  | nil => cases h
  | cons x xs ih =>
    rw [List.mapM_cons] at h
    rcases bind_eq_error_iff.mp h with hx | ⟨b, hb, h⟩
    · exact ⟨0, x, rfl, hx, fun j hj => absurd hj (Nat.not_lt_zero j)⟩
    · rcases bind_eq_error_iff.mp h with h | ⟨bs, -, h⟩
      · obtain ⟨k, y, hk, hy, hbefore⟩ := ih h
        refine ⟨k + 1, y, hk, hy, fun j hj z hz => ?_⟩
        cases j with
        | zero => exact ⟨b, Option.some.inj hz ▸ hb⟩
        | succ j => exact hbefore j (Nat.lt_of_succ_lt_succ hj) z hz
      · cases h

variable {f : PixelFormat} {source : String} {p : Program}

namespace Statement

variable {t : Token} {s : Statement}

/-! ### The three roles of a token -/

theorem compileTarget_eq_ok_iff {slot : Slot} :
    compileTarget f t = .ok slot ↔ Symbol.resolve f t.toSite = .ok (some (.slot slot)) := by
  simp only [compileTarget, bind_eq_ok_iff]
  refine ⟨?_, fun h => ⟨_, h, rfl⟩⟩
  rintro ⟨symbol?, hsymbol, h⟩
  match symbol? with
  | some (.slot s) =>
    cases h
    exact hsymbol
  | some (.constant c) => cases h
  | none =>
    dsimp only at h
    split_ifs at h

theorem compileOperator_eq_ok_iff {op : Operator} :
    compileOperator t = .ok op ↔ Operator.ofSpelling? t.text = some op := by
  rw [compileOperator]
  cases Operator.ofSpelling? t.text with
  | none => simp
  | some op' => simp

/-- What the token of an operand has to be. -/
def Denotes (f : PixelFormat) (t : Token) : Operand → Prop
  | .slot s => Symbol.resolve f t.toSite = .ok (some (.slot s))
  | .constant c => Symbol.resolve f t.toSite = .ok (some (.constant c))
  | .literal x => Symbol.resolve f t.toSite = .ok none ∧ Numeral.value? t.text = some x

theorem compileOperand_eq_ok_iff {operand : Operand} :
    compileOperand f t = .ok operand ↔ Denotes f t operand := by
  simp only [compileOperand, bind_eq_ok_iff]
  constructor
  · rintro ⟨symbol?, hsymbol, h⟩
    match symbol? with
    | some (.slot s) =>
      cases h
      exact hsymbol
    | some (.constant c) =>
      cases h
      exact hsymbol
    | none =>
      dsimp only at h
      split at h
      · rename_i x hx
        cases h
        exact ⟨hsymbol, hx⟩
      · cases h
  · intro h
    cases operand with
    | slot s => exact ⟨_, h, rfl⟩
    | constant c => exact ⟨_, h, rfl⟩
    | literal x =>
      refine ⟨_, h.1, ?_⟩
      dsimp only
      rw [h.2]
      rfl

/-- A token that is neither a symbol nor a numeral is at fault as an operand. -/
theorem compileOperand_of_none (hr : Symbol.resolve f t.toSite = .ok none)
    (hv : Numeral.value? t.text = none) :
    compileOperand f t = .error (.token (unresolved t.text) t.toSite) := by
  rw [compileOperand, hr]
  simp only [bind, Except.bind, hv]
  rfl

/-! ### Statements -/

theorem compile_eq_ok_iff {i : Instruction} :
    s.compile f = .ok i ↔ compileTarget f s.target = .ok i.target ∧
      compileOperator s.operator = .ok i.operator ∧
      compileOperand f s.operand = .ok i.operand := by
  simp only [compile, bind_eq_ok_iff]
  constructor
  · rintro ⟨target, htarget, operator, hoperator, operand, hoperand, h⟩
    cases h
    exact ⟨htarget, hoperator, hoperand⟩
  · rintro ⟨htarget, hoperator, hoperand⟩
    exact ⟨_, htarget, _, hoperator, _, hoperand, rfl⟩

/-- The slots of a compiled statement are slots of the format. -/
theorem fits_of_compile {i : Instruction} (h : s.compile f = .ok i) : i.Fits f.channels := by
  obtain ⟨htarget, -, hoperand⟩ := compile_eq_ok_iff.mp h
  refine ⟨Symbol.fits_of_resolve (compileTarget_eq_ok_iff.mp htarget), ?_⟩
  have hdenotes := compileOperand_eq_ok_iff.mp hoperand
  cases hop : i.operand with
  | slot slot =>
    rw [hop] at hdenotes
    exact Symbol.fits_of_resolve hdenotes
  | literal x => trivial
  | constant c => trivial

/-- The literal of a compiled statement is a number or an infinity. -/
theorem isNaN_of_compile {i : Instruction} {x : Float} (h : s.compile f = .ok i)
    (hx : i.operand = .literal x) : x.isNaN = false := by
  obtain ⟨-, -, hoperand⟩ := compile_eq_ok_iff.mp h
  rw [hx, compileOperand_eq_ok_iff] at hoperand
  exact Numeral.isNaN_of_value? hoperand.2

end Statement

/-! ### Programs -/

/-- A text of whole statements is compiled statement by statement. -/
theorem compile_of_group (h : (Statement.group (tokens source)).2 = []) :
    compile f source = do
      let instructions ← (Statement.group (tokens source)).1.mapM (Statement.compile f)
      return { format := f, instructions } := by
  rw [compile]
  generalize Statement.group (tokens source) = grouped at *
  obtain ⟨statements, rest⟩ := grouped
  cases h
  rfl

/-- A text compiles to a program when its tokens form whole statements that compile to the
instructions of the program, one by one. -/
theorem compile_eq_ok_iff :
    compile f source = .ok p ↔
      (Statement.group (tokens source)).2 = [] ∧ p.format = f ∧
        List.Forall₂ (fun s i => Statement.compile f s = .ok i)
          (Statement.group (tokens source)).1 p.instructions := by
  obtain ⟨format, instructions⟩ := p
  rw [compile]
  generalize Statement.group (tokens source) = grouped
  obtain ⟨statements, rest⟩ := grouped
  cases rest with
  | cons first rest => simp
  | nil =>
    simp only [bind_eq_ok_iff, ← mapM_eq_ok_iff]
    constructor
    · rintro ⟨is, his, h⟩
      cases h
      exact ⟨trivial, rfl, his⟩
    · rintro ⟨-, hformat, his⟩
      exact ⟨_, his, by rw [← hformat]; rfl⟩

private theorem exists_of_forall₂ {α : Type u} {β : Type v} {R : α → β → Prop} {xs : List α}
    {ys : List β} (h : List.Forall₂ R xs ys) {y : β} (hy : y ∈ ys) : ∃ x, R x y := by
  induction h with
  | nil => exact absurd hy List.not_mem_nil
  | cons hr h ih =>
    rcases List.mem_cons.mp hy with rfl | hy
    · exact ⟨_, hr⟩
    · exact ih hy

theorem exists_statement_of_compile (h : compile f source = .ok p) {i : Instruction}
    (hi : i ∈ p.instructions) : ∃ s : Statement, s.compile f = .ok i := by
  obtain ⟨-, -, hall⟩ := compile_eq_ok_iff.mp h
  exact exists_of_forall₂ hall hi

theorem fits_of_compile (h : compile f source = .ok p) {i : Instruction}
    (hi : i ∈ p.instructions) : i.Fits f.channels := by
  obtain ⟨s, hs⟩ := exists_statement_of_compile h hi
  exact Statement.fits_of_compile hs

theorem isNaN_of_compile (h : compile f source = .ok p) {i : Instruction}
    (hi : i ∈ p.instructions) {x : Float} (hx : i.operand = .literal x) : x.isNaN = false := by
  obtain ⟨s, hs⟩ := exists_statement_of_compile h hi
  exact Statement.isNaN_of_compile hs hx

/-! ### Declared strides -/

theorem requireStride_eq_ok_iff {stride : Nat} {u : Unit} :
    requireStride f stride = .ok u ↔ stride = f.channels := by
  rw [requireStride]
  split
  · next h => exact iff_of_true rfl h
  · next h => exact iff_of_false (fun h' => nomatch h') h

theorem requireStride_eq_error_iff {stride : Nat} {e : CompileError} :
    requireStride f stride = .error e ↔
      stride ≠ f.channels ∧ e = .strideMismatch (some f) f.channels stride := by
  rw [requireStride]
  split
  · next h => exact iff_of_false (fun h' => nomatch h') fun h' => h'.1 h
  · next h => rw [and_iff_right h, Except.error.injEq, eq_comm]

theorem compileStrided_eq_ok_iff {stride : Nat} :
    compileStrided f stride source = .ok p ↔ stride = f.channels ∧ compile f source = .ok p := by
  simp only [compileStrided, bind_eq_ok_iff, requireStride_eq_ok_iff, exists_const]

/-- The declared stride is looked at before the text is compiled. -/
theorem compileStrided_eq_error_iff {stride : Nat} {e : CompileError} :
    compileStrided f stride source = .error e ↔
      (stride ≠ f.channels ∧ e = .strideMismatch (some f) f.channels stride) ∨
        stride = f.channels ∧ compile f source = .error e := by
  simp only [compileStrided, bind_eq_error_iff, requireStride_eq_ok_iff,
    requireStride_eq_error_iff, exists_const]

end PixelMath
