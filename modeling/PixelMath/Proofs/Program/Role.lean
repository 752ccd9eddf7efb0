import PixelMath.Proofs.Name
import PixelMath.Proofs.Program.Compile

/-!
# The roles of tokens

The tokens of a program text are targets, operators and operands in turn. A token is judged by its
role alone: either its text is one that the role accepts, and the statement gets the part that the
text names, or the text is at fault in a way that role and text decide. A statement compiles when
all its tokens are accepted, and otherwise fails at the first one that is not.

## Main definitions

* `Role` — the three roles, `Role.ofIndex` the role of a token by its index.
* `Role.Accepts` — the texts that a role accepts.
* `Role.fault` — what is wrong with any other text.
* `Statement.token` — the tokens of a statement by their role.

## Main results

* `Statement.compileTarget_eq_error_iff`, `Statement.compileOperator_eq_error_iff`,
  `Statement.compileOperand_eq_error_iff` — the faults of single tokens.
* `Statement.exists_compile_iff`, `Statement.exists_fault_of_compile_eq_error` — the outcome of a
  statement.
-/

namespace PixelMath

/-- The part that a token has in its statement. -/
inductive Role where
  | target
  | operator
  | operand
deriving DecidableEq, Repr

namespace Role

/-- The place of the role in a statement. -/
def place : Role → Nat
  | target => 0
  | operator => 1
  | operand => 2

/-- The role of the token with the given index. -/
def ofIndex (i : Nat) : Role :=
  if i % 3 = 0 then target else if i % 3 = 1 then operator else operand

theorem place_ofIndex (i : Nat) : (ofIndex i).place = i % 3 := by
  have hlt := Nat.mod_lt i (y := 3) (by decide)
  rw [ofIndex]
  split_ifs <;> simp only [place] <;> omega

theorem ofIndex_add_place (k : Nat) (r : Role) : ofIndex (3 * k + r.place) = r := by
  have hmod : (3 * k + r.place) % 3 = r.place := by cases r <;> simp only [place] <;> omega
  rw [ofIndex, hmod]
  cases r <;> rfl

/-- Whether a text is valid in a role: a target names a slot, an operator is in the table of
spellings, and an operand names a slot or a constant, or is a numeral. -/
def Accepts (f : PixelFormat) : Role → String → Prop
  | target, text => ∃ s : Slot, s.Named f text
  | operator, text => ∃ op, (text, op) ∈ Operator.spellings
  | operand, text => ∃ o : Operand, o.Written f text

/-- Whether the text is the name of a constant. -/
def IsConstantName (text : String) : Prop :=
  ∃ c ∈ Constant.all, c.name = text

/-- Whether the text starts as a numeral does. -/
def StartsLikeNumeral (text : String) : Prop :=
  ∃ c ∈ text.toList.head?, c.isDigit ∨ c = '+' ∨ c = '-' ∨ c = '.'

instance : DecidablePred IsConstantName :=
  fun _ => inferInstanceAs (Decidable (∃ _ ∈ _, _))

instance : DecidablePred StartsLikeNumeral :=
  fun _ => inferInstanceAs (Decidable (∃ _ ∈ _, _))

/-- What is wrong with a text that is not valid in its role. -/
def fault (f : PixelFormat) (role : Role) (text : String) : TokenFault :=
  if role = operator then .unknownOperator
  else if IsLackingChannel f text then .channelOutOfRange f.channels
  else if role = target ∧ (IsConstantName text ∨ IsNumeral text) then .notAssignable
  else if StartsLikeNumeral text then .malformedNumber
  else .unknownIdentifier

/-! ### Faults

A text that is not an operator is first looked up among the names of channels that the format
lacks, then as something that has a value but no place, and at last by its first character. -/

theorem isConstantName_iff {text : String} :
    IsConstantName text ↔ ∃ c : Constant, text = c.name := by
  refine ⟨fun ⟨c, _, hc⟩ => ⟨c, hc.symm⟩, ?_⟩
  rintro ⟨c, rfl⟩
  exact ⟨c, by cases c <;> decide, rfl⟩

theorem unresolved_eq (text : String) :
    Statement.unresolved text =
      if StartsLikeNumeral text then .malformedNumber else .unknownIdentifier := by
  have hiff : text.toList.head?.any Statement.startsNumber = true ↔ StartsLikeNumeral text := by
    simp [StartsLikeNumeral, Statement.startsNumber, Option.any_eq_true, or_assoc]
  simp only [Statement.unresolved, hiff]

variable {f : PixelFormat} {role : Role} {text : String}

theorem fault_of_isLackingChannel (hrole : role ≠ operator) (hlacking : IsLackingChannel f text) :
    role.fault f text = .channelOutOfRange f.channels := by
  rw [fault, if_neg hrole, if_pos hlacking]

theorem fault_target_of_value (hlacking : ¬ IsLackingChannel f text)
    (hvalue : IsConstantName text ∨ IsNumeral text) : target.fault f text = .notAssignable := by
  rw [fault, if_neg (by decide), if_neg hlacking, if_pos ⟨rfl, hvalue⟩]

theorem fault_eq_unresolved (hrole : role ≠ operator) (hlacking : ¬ IsLackingChannel f text)
    (hvalue : role = target → ¬(IsConstantName text ∨ IsNumeral text)) :
    role.fault f text = Statement.unresolved text := by
  have htarget : ¬(role = target ∧ (IsConstantName text ∨ IsNumeral text)) :=
    fun h => hvalue h.1 h.2
  rw [fault, if_neg hrole, if_neg hlacking, if_neg htarget, unresolved_eq]

end Role

namespace Statement

/-- The token in a role. -/
def token (s : Statement) : Role → Token
  | .target => s.target
  | .operator => s.operator
  | .operand => s.operand

variable {f : PixelFormat} {t : Token} {s : Statement}

/-! ### Accepted tokens -/

theorem compileTarget_eq_ok_iff_named {slot : Slot} :
    compileTarget f t = .ok slot ↔ slot.Named f t.text := by
  rw [compileTarget_eq_ok_iff, Symbol.resolve_eq_ok_some_iff, Symbol.named_slot_iff]

theorem compileOperator_eq_ok_iff_mem {op : Operator} :
    compileOperator t = .ok op ↔ (t.text, op) ∈ Operator.spellings := by
  rw [compileOperator_eq_ok_iff, Operator.ofSpelling?_eq_some_iff]

theorem compileOperand_eq_ok_iff_written {operand : Operand} :
    compileOperand f t = .ok operand ↔ operand.Written f t.text := by
  rw [compileOperand_eq_ok_iff]
  cases operand with
  | slot slot =>
    rw [Denotes, Symbol.resolve_eq_ok_some_iff, Symbol.named_slot_iff, Operand.written_slot_iff]
  | constant c =>
    rw [Denotes, Symbol.resolve_eq_ok_some_iff, Symbol.named_constant_iff,
      Operand.written_constant_iff]
  | literal x =>
    rw [Denotes, Operand.written_literal_iff, and_iff_right_iff_imp]
    intro hvalue
    obtain ⟨d, hd, -⟩ := Option.map_eq_some_iff.mp hvalue
    exact Symbol.resolve_of_isSome_decimal? (Option.isSome_of_mem hd)

/-! ### Tokens at fault -/

theorem compileTarget_of_not_accepts (h : ¬ Role.target.Accepts f t.text) :
    compileTarget f t = .error (.token (Role.target.fault f t.text) t.toSite) := by
  rw [compileTarget]
  cases hr : Symbol.resolve f t.toSite with
  | error e =>
    obtain ⟨hlacking, rfl⟩ := Symbol.resolve_eq_error_iff.mp hr
    rw [Role.fault_of_isLackingChannel (by decide) hlacking]
    rfl
  | ok symbol? =>
    have hlacking := Symbol.not_isLackingChannel_of_resolve_eq_ok hr
    rcases symbol? with _ | s | c
    · -- nothing has this name, so it is a numeral that makes it a value
      obtain ⟨hunnamed, -⟩ := Symbol.resolve_eq_ok_none_iff.mp hr
      simp only [bind, Except.bind, ← isNumeral_iff]
      split_ifs with hnumeral
      · rw [Role.fault_target_of_value hlacking (.inr hnumeral)]
        rfl
      · have hvalue : ¬(Role.IsConstantName t.text ∨ IsNumeral t.text) := by
          rintro (hconstant | h)
          · obtain ⟨c, hc⟩ := Role.isConstantName_iff.mp hconstant
            exact hunnamed _ (Symbol.named_constant_iff.mpr hc)
          · exact hnumeral h
        rw [Role.fault_eq_unresolved (by decide) hlacking fun _ => hvalue]
        rfl
    · have hnamed := Symbol.named_slot_iff.mp (Symbol.resolve_eq_ok_some_iff.mp hr)
      exact absurd ⟨s, hnamed⟩ h
    · have hname := Symbol.named_constant_iff.mp (Symbol.resolve_eq_ok_some_iff.mp hr)
      rw [Role.fault_target_of_value hlacking (.inl (Role.isConstantName_iff.mpr ⟨c, hname⟩))]
      rfl

theorem compileOperator_of_not_accepts (h : ¬ Role.operator.Accepts f t.text) :
    compileOperator t = .error (.token (Role.operator.fault f t.text) t.toSite) := by
  rw [compileOperator]
  cases hop : Operator.ofSpelling? t.text with
  | none => rfl
  | some op => exact absurd ⟨op, Operator.ofSpelling?_eq_some_iff.mp hop⟩ h

theorem compileOperand_of_not_accepts (h : ¬ Role.operand.Accepts f t.text) :
    compileOperand f t = .error (.token (Role.operand.fault f t.text) t.toSite) := by
  cases hr : Symbol.resolve f t.toSite with
  | error e =>
    obtain ⟨hlacking, rfl⟩ := Symbol.resolve_eq_error_iff.mp hr
    rw [compileOperand, hr, Role.fault_of_isLackingChannel (by decide) hlacking]
    rfl
  | ok symbol? =>
    have hlacking := Symbol.not_isLackingChannel_of_resolve_eq_ok hr
    rcases symbol? with _ | s | c
    · cases hvalue : Numeral.value? t.text with
      | some x => exact absurd ⟨_, Operand.written_literal_iff.mpr hvalue⟩ h
      | none =>
        have hfault : Role.operand.fault f t.text = unresolved t.text :=
          Role.fault_eq_unresolved (by decide) hlacking fun hrole => absurd hrole (by decide)
        rw [compileOperand_of_none hr hvalue, hfault]
    · have hnamed := Symbol.named_slot_iff.mp (Symbol.resolve_eq_ok_some_iff.mp hr)
      exact absurd ⟨_, .slot hnamed⟩ h
    · have hname := Symbol.named_constant_iff.mp (Symbol.resolve_eq_ok_some_iff.mp hr)
      exact absurd ⟨_, Operand.written_constant_iff.mpr hname⟩ h

private theorem eq_error_iff {ε α : Type} {x : Except ε α} {valid : Prop} {e e' : ε}
    (hok : valid → ∃ a, x = .ok a) (herror : ¬ valid → x = .error e') :
    x = .error e ↔ ¬ valid ∧ e = e' := by
  refine ⟨fun h => ?_, ?_⟩
  · have hnot : ¬ valid := fun hvalid => by
      obtain ⟨a, ha⟩ := hok hvalid
      cases h.symm.trans ha
    exact ⟨hnot, Except.error.inj (h.symm.trans (herror hnot))⟩
  · rintro ⟨hnot, rfl⟩
    exact herror hnot

variable {e : CompileError}

theorem compileTarget_eq_error_iff :
    compileTarget f t = .error e ↔
      ¬ Role.target.Accepts f t.text ∧ e = .token (Role.target.fault f t.text) t.toSite :=
  eq_error_iff (fun ⟨s, hs⟩ => ⟨s, compileTarget_eq_ok_iff_named.mpr hs⟩)
    compileTarget_of_not_accepts

theorem compileOperator_eq_error_iff :
    compileOperator t = .error e ↔
      ¬ Role.operator.Accepts f t.text ∧ e = .token (Role.operator.fault f t.text) t.toSite :=
  eq_error_iff (fun ⟨op, hop⟩ => ⟨op, compileOperator_eq_ok_iff_mem.mpr hop⟩)
    compileOperator_of_not_accepts

theorem compileOperand_eq_error_iff :
    compileOperand f t = .error e ↔
      ¬ Role.operand.Accepts f t.text ∧ e = .token (Role.operand.fault f t.text) t.toSite :=
  eq_error_iff (fun ⟨o, ho⟩ => ⟨o, compileOperand_eq_ok_iff_written.mpr ho⟩)
    compileOperand_of_not_accepts

/-! ### Statements -/

/-- A statement compiles when each of its tokens is valid in its role. -/
theorem exists_compile_iff :
    (∃ i, s.compile f = .ok i) ↔ ∀ r : Role, r.Accepts f (s.token r).text := by
  simp only [compile_eq_ok_iff, compileTarget_eq_ok_iff_named, compileOperator_eq_ok_iff_mem,
    compileOperand_eq_ok_iff_written]
  constructor
  · rintro ⟨i, htarget, hoperator, hoperand⟩ r
    cases r with
    | target => exact ⟨_, htarget⟩
    | operator => exact ⟨_, hoperator⟩
    | operand => exact ⟨_, hoperand⟩
  · intro h
    obtain ⟨target, htarget⟩ := h .target
    obtain ⟨operator, hoperator⟩ := h .operator
    obtain ⟨operand, hoperand⟩ := h .operand
    exact ⟨⟨target, operator, operand⟩, htarget, hoperator, hoperand⟩

/-- A statement fails at the first of its tokens that is not valid in its role. -/
theorem exists_fault_of_compile_eq_error (h : s.compile f = .error e) :
    ∃ r : Role, ¬ r.Accepts f (s.token r).text ∧
      (∀ r' : Role, r'.place < r.place → r'.Accepts f (s.token r').text) ∧
      e = .token (r.fault f (s.token r).text) (s.token r).toSite := by
  simp only [compile, bind_eq_error_iff] at h
  rcases h with h | ⟨target, htarget, h | ⟨operator, hoperator, h | ⟨operand, -, h⟩⟩⟩
  · obtain ⟨hnot, he⟩ := compileTarget_eq_error_iff.mp h
    exact ⟨.target, hnot, fun r' hr' => absurd hr' (Nat.not_lt_zero _), he⟩
  · obtain ⟨hnot, he⟩ := compileOperator_eq_error_iff.mp h
    refine ⟨.operator, hnot, fun r' hr' => ?_, he⟩
    cases r' with
    | target => exact ⟨_, compileTarget_eq_ok_iff_named.mp htarget⟩
    | operator | operand => exact absurd hr' (by decide)
  · obtain ⟨hnot, he⟩ := compileOperand_eq_error_iff.mp h
    refine ⟨.operand, hnot, fun r' hr' => ?_, he⟩
    cases r' with
    | target => exact ⟨_, compileTarget_eq_ok_iff_named.mp htarget⟩
    | operator => exact ⟨_, compileOperator_eq_ok_iff_mem.mp hoperator⟩
    | operand => exact absurd hr' (by decide)
  · cases h

end Statement

end PixelMath
