import PixelMath.Proofs.Program.Role
import PixelMath.Proofs.Token

/-!
# The language of program texts

A text is a program exactly if its tokens form whole statements and each of them is valid in its
role, and then its instructions name what its tokens name, one by one. Any other text is refused for
the tokens that are left over, if there are any, and else for the first token that is not valid.

## Main results

* `Statement.token_of_group`, `Statement.exists_token_of_group` — statements and roles by the index
  of a token.
* `exists_fault_of_compile_eq_error`, `compile_of_first_fault` — where a text of whole statements is
  refused.
* `compile_token_by_token` — which texts are programs, and what their instructions are.
* `compile_error_first_fault` — why any other text is refused.
-/

namespace PixelMath

variable {f : PixelFormat} {source : String} {p : Program} {e : CompileError}

/-! ### Statements by index -/

namespace Statement

variable {ts : List Token} {s : Statement}

/-- Statement `k` takes its tokens from index `3 * k` on. -/
theorem token_of_group {k : Nat} (h : (group ts).1[k]? = some s) (r : Role) :
    ts[3 * k + r.place]? = some (s.token r) := by
  fun_induction group ts generalizing k with
  | case1 target operator operand rest ih =>
    cases k with
    | zero =>
      cases h
      cases r <;> rfl
    | succ k =>
      have hindex : 3 * (k + 1) + r.place = 3 * k + r.place + 1 + 1 + 1 := by omega
      rw [hindex, List.getElem?_cons_succ, List.getElem?_cons_succ, List.getElem?_cons_succ]
      exact ih h
  | case2 rest hrest => exact absurd h (by simp)

theorem group_snd_eq_nil_iff : (group ts).2 = [] ↔ ts.length % 3 = 0 := by
  rw [group_rest, List.drop_eq_nil_iff]
  omega

/-- The tokens left over are the last ones. -/
theorem group_snd_eq_rtake : (group ts).2 = ts.rtake (ts.length % 3) := by
  have hlength : ts.length - ts.length % 3 = 3 * (ts.length / 3) := by omega
  rw [group_rest, List.rtake, hlength]

/-- Every token of whole statements belongs to one of them, in the role that its index gives. -/
theorem exists_token_of_group {i : Nat} {t : Token} (h : ts.length % 3 = 0)
    (ht : ts[i]? = some t) :
    ∃ s, (group ts).1[i / 3]? = some s ∧ s.token (Role.ofIndex i) = t := by
  obtain ⟨hi, -⟩ := List.getElem?_eq_some_iff.mp ht
  have hlt : i / 3 < (group ts).1.length := by
    rw [length_group]
    omega
  have hs := List.getElem?_eq_getElem hlt
  have htoken := token_of_group hs (Role.ofIndex i)
  rw [Role.place_ofIndex, Nat.div_add_mod, ht] at htoken
  exact ⟨_, hs, (Option.some.inj htoken).symm⟩

end Statement

/-! ### Programs -/

theorem compile_of_length_mod (h : (tokens source).length % 3 ≠ 0) :
    ∃ first, (tokens source)[3 * ((tokens source).length / 3)]? = some first ∧
      compile f source =
        .error (.dangling (((tokens source).rtake ((tokens source).length % 3)).map (·.text))
          first.index first.line) := by
  have hrest := Statement.group_rest (tokens source)
  have hrtake : (Statement.group (tokens source)).2 = _ := Statement.group_snd_eq_rtake
  have hne := mt Statement.group_snd_eq_nil_iff.mp h
  -- `compile` opens the statements and the tokens left over in one match
  rw [compile, ← hrtake]
  revert hrest hne
  generalize Statement.group (tokens source) = grouped
  obtain ⟨statements, rest⟩ := grouped
  intro hrest hne
  cases rest with
  | nil => exact absurd rfl hne
  | cons first rest =>
    refine ⟨first, ?_, rfl⟩
    rw [← List.head?_drop, ← hrest]
    rfl

/-- A text of whole statements is refused at the first token that is not valid in its role. -/
theorem exists_fault_of_compile_eq_error (hlength : (tokens source).length % 3 = 0)
    (h : compile f source = .error e) :
    ∃ (i : Nat) (t : Token), (tokens source)[i]? = some t ∧
      ¬ (Role.ofIndex i).Accepts f t.text ∧
      (∀ j < i, ∀ u, (tokens source)[j]? = some u → (Role.ofIndex j).Accepts f u.text) ∧
      e = .token ((Role.ofIndex i).fault f t.text) ⟨t.text, i, t.line⟩ := by
  rw [compile_of_group (Statement.group_snd_eq_nil_iff.mpr hlength)] at h
  rcases bind_eq_error_iff.mp h with h | ⟨is, -, h⟩
  · obtain ⟨k, s, hs, herror, hbefore⟩ := exists_of_mapM_eq_error h
    obtain ⟨r, hnot, hfirst, rfl⟩ := Statement.exists_fault_of_compile_eq_error herror
    have ht := Statement.token_of_group hs r
    have hindex : (s.token r).index = 3 * k + r.place := index_of_getElem?_tokens ht
    refine ⟨3 * k + r.place, s.token r, ht, ?_, fun j hj u hu => ?_, ?_⟩
    · rwa [Role.ofIndex_add_place]
    · obtain ⟨s', hs', rfl⟩ := Statement.exists_token_of_group hlength hu
      rcases Nat.lt_or_ge (j / 3) k with hlt | hge
      · exact Statement.exists_compile_iff.mp (hbefore _ hlt s' hs') _
      · -- the token stands in the failing statement, in front of the token at fault
        have hk : j / 3 = k := by cases r <;> simp only [Role.place] at hj <;> omega
        rw [hk, hs] at hs'
        cases hs'
        refine hfirst _ ?_
        rw [Role.place_ofIndex]
        omega
    · rw [Role.ofIndex_add_place, ← hindex]
  · cases h

/-- A text is refused for its tokens alone. -/
theorem exists_line_of_compile_eq_error (h : compile f source = .error e) :
    ∃ line, e.line? = some line := by
  by_cases hlength : (tokens source).length % 3 = 0
  · obtain ⟨i, t, -, -, -, rfl⟩ := exists_fault_of_compile_eq_error hlength h
    exact ⟨_, rfl⟩
  · obtain ⟨t, -, herror⟩ := compile_of_length_mod (f := f) hlength
    cases h.symm.trans herror
    exact ⟨_, rfl⟩

/-- The instruction has its parts from the tokens of statement `k`. -/
def Instruction.IsOfTokens (f : PixelFormat) (ts : List Token) (k : Nat) (i : Instruction) : Prop :=
  ∃ target operator operand, ts[3 * k]? = some target ∧ ts[3 * k + 1]? = some operator ∧
    ts[3 * k + 2]? = some operand ∧ i.target.Named f target.text ∧
    (operator.text, i.operator) ∈ Operator.spellings ∧ i.operand.Written f operand.text

/-- A statement compiles to an instruction if its tokens give the parts of the instruction. -/
theorem Statement.compile_eq_ok_iff_isOfTokens {ts : List Token} {s : Statement} {k : Nat}
    (h : (group ts).1[k]? = some s) {i : Instruction} :
    s.compile f = .ok i ↔ i.IsOfTokens f ts k := by
  rw [compile_eq_ok_iff, compileTarget_eq_ok_iff_named, compileOperator_eq_ok_iff_mem,
    compileOperand_eq_ok_iff_written]
  have htarget := token_of_group h .target
  have hoperator := token_of_group h .operator
  have hoperand := token_of_group h .operand
  constructor
  · rintro ⟨hi, hop, ho⟩
    exact ⟨_, _, _, htarget, hoperator, hoperand, hi, hop, ho⟩
  · rintro ⟨target, operator, operand, htarget', hoperator', hoperand', hi, hop, ho⟩
    cases htarget.symm.trans htarget'
    cases hoperator.symm.trans hoperator'
    cases hoperand.symm.trans hoperand'
    exact ⟨hi, hop, ho⟩

theorem compile_eq_ok_iff_isOfTokens :
    compile f source = .ok p ↔
      (tokens source).length % 3 = 0 ∧ p.format = f ∧ p.length = (tokens source).length / 3 ∧
        ∀ (k : Nat) (i : Instruction), p.instructions[k]? = some i →
          i.IsOfTokens f (tokens source) k := by
  have hcount := Statement.length_group (tokens source)
  rw [compile_eq_ok_iff, Statement.group_snd_eq_nil_iff, List.forall₂_iff_get, ← hcount]
  refine and_congr_right fun _ => and_congr_right fun _ => ?_
  constructor
  · rintro ⟨hlength, hall⟩
    refine ⟨hlength.symm, fun k i hi => ?_⟩
    obtain ⟨hk, rfl⟩ := List.getElem?_eq_some_iff.mp hi
    exact (Statement.compile_eq_ok_iff_isOfTokens (List.getElem?_eq_getElem (hlength ▸ hk))).mp
      (hall k (hlength ▸ hk) hk)
  · rintro ⟨hlength, hall⟩
    refine ⟨hlength.symm, fun k hk hk' => ?_⟩
    exact (Statement.compile_eq_ok_iff_isOfTokens (List.getElem?_eq_getElem hk)).mpr
      (hall k _ (List.getElem?_eq_getElem hk'))

/-- The tokens of an instruction are valid in their roles. -/
theorem Instruction.IsOfTokens.accepts {ts : List Token} {k : Nat} {i : Instruction}
    (hi : i.IsOfTokens f ts k) {r : Role} {t : Token} (ht : ts[3 * k + r.place]? = some t) :
    r.Accepts f t.text := by
  obtain ⟨target, operator, operand, htarget, hoperator, hoperand, hnamed, hspelling, hwritten⟩ :=
    hi
  cases r with
  | target =>
    cases htarget.symm.trans ht
    exact ⟨_, hnamed⟩
  | operator =>
    cases hoperator.symm.trans ht
    exact ⟨_, hspelling⟩
  | operand =>
    cases hoperand.symm.trans ht
    exact ⟨_, hwritten⟩

/-- Every token of a program is valid in its role. -/
theorem accepts_of_compile {i : Nat} {t : Token} (h : compile f source = .ok p)
    (ht : (tokens source)[i]? = some t) : (Role.ofIndex i).Accepts f t.text := by
  obtain ⟨hlength, -, hcount, hall⟩ := compile_eq_ok_iff_isOfTokens.mp h
  obtain ⟨hi, -⟩ := List.getElem?_eq_some_iff.mp ht
  have hlt : i / 3 < p.length := by omega
  refine (hall _ _ (List.getElem?_eq_getElem hlt)).accepts ?_
  rw [Role.place_ofIndex, Nat.div_add_mod, ht]

/-- The first token that is not valid in its role is the one that is reported. -/
theorem compile_of_first_fault {i : Nat} {t : Token} (hlength : (tokens source).length % 3 = 0)
    (ht : (tokens source)[i]? = some t) (hnot : ¬ (Role.ofIndex i).Accepts f t.text)
    (hfirst : ∀ j < i, ∀ u, (tokens source)[j]? = some u → (Role.ofIndex j).Accepts f u.text) :
    compile f source = .error (.token ((Role.ofIndex i).fault f t.text) ⟨t.text, i, t.line⟩) := by
  cases h : compile f source with
  | ok p => exact absurd (accepts_of_compile h ht) hnot
  | error e =>
    obtain ⟨j, u, hu, hnot', hfirst', rfl⟩ := exists_fault_of_compile_eq_error hlength h
    rcases Nat.lt_trichotomy i j with hlt | rfl | hlt
    · exact absurd (hfirst' i hlt t ht) hnot
    · cases ht.symm.trans hu
      rfl
    · exact absurd (hfirst j hlt u hu) hnot'

/-- **Which texts are programs.** A text compiles exactly if its tokens form whole statements and
each of them is valid in the role that its index gives. The program that it compiles to is the one
with an instruction for each statement, in their order, whose target, operator and operand are those
that the three tokens name; its channels are channels of the format. -/
theorem compile_token_by_token (f : PixelFormat) (source : String) :
    ((∃ p, compile f source = .ok p) ↔
      (tokens source).length % 3 = 0 ∧
        ∀ (i : Nat) (t : Token), (tokens source)[i]? = some t →
          (Role.ofIndex i).Accepts f t.text) ∧
      (∀ p, compile f source = .ok p ↔
        (tokens source).length % 3 = 0 ∧ p.format = f ∧
          p.length = (tokens source).length / 3 ∧
          ∀ (k : Nat) (i : Instruction), p.instructions[k]? = some i →
            i.IsOfTokens f (tokens source) k) ∧
      ∀ p, compile f source = .ok p → ∀ i ∈ p.instructions, i.Fits f.channels := by
  refine ⟨⟨?_, ?_⟩, fun p => compile_eq_ok_iff_isOfTokens, fun p hp i hi => fits_of_compile hp hi⟩
  · rintro ⟨p, hp⟩
    obtain ⟨hlength, -, hcount, hall⟩ := compile_eq_ok_iff_isOfTokens.mp hp
    refine ⟨hlength, fun i t ht => ?_⟩
    obtain ⟨s, hs, rfl⟩ := Statement.exists_token_of_group hlength ht
    have hlt : i / 3 < p.length := by
      obtain ⟨hi, -⟩ := List.getElem?_eq_some_iff.mp ht
      omega
    have hi := hall _ _ (List.getElem?_eq_getElem hlt)
    exact Statement.exists_compile_iff.mp
      ⟨_, (Statement.compile_eq_ok_iff_isOfTokens hs).mpr hi⟩ _
  · rintro ⟨hlength, hall⟩
    -- a text that is refused has a token that is not valid
    cases h : compile f source with
    | ok p => exact ⟨p, rfl⟩
    | error e =>
      obtain ⟨i, t, ht, hnot, -⟩ := exists_fault_of_compile_eq_error hlength h
      exact absurd (hall i t ht) hnot

/-- **Why a text is refused.** Tokens that are left over after the last whole statement are reported
before all else. A text of whole statements is refused for the first token that is not valid in its
role, with the fault that its role and its text decide. The line of the error is the line, counted
from one, on which the token at fault stands. -/
theorem compile_error_first_fault (h : compile f source = .error e) :
    ∃ (i : Nat) (t : Token), (tokens source)[i]? = some t ∧ t.LiesIn source ∧
      e.line? = some t.line ∧
      ((tokens source).length % 3 ≠ 0 →
        i = 3 * ((tokens source).length / 3) ∧
          e = .dangling (((tokens source).rtake ((tokens source).length % 3)).map (·.text)) i
            t.line) ∧
      ((tokens source).length % 3 = 0 →
        ¬ (Role.ofIndex i).Accepts f t.text ∧
          (∀ j < i, ∀ u, (tokens source)[j]? = some u → (Role.ofIndex j).Accepts f u.text) ∧
          e = .token ((Role.ofIndex i).fault f t.text) ⟨t.text, i, t.line⟩) := by
  by_cases hlength : (tokens source).length % 3 = 0
  · obtain ⟨i, t, ht, hnot, hfirst, rfl⟩ := exists_fault_of_compile_eq_error hlength h
    exact ⟨i, t, ht, liesIn_of_mem_tokens (List.mem_of_getElem? ht), rfl,
      fun hne => absurd hlength hne, fun _ => ⟨hnot, hfirst, rfl⟩⟩
  · obtain ⟨t, ht, herror⟩ := compile_of_length_mod (f := f) hlength
    cases h.symm.trans herror
    refine ⟨_, t, ht, liesIn_of_mem_tokens (List.mem_of_getElem? ht), rfl,
      fun _ => ⟨rfl, ?_⟩, fun hzero => absurd hzero hlength⟩
    rw [index_of_getElem?_tokens ht]

/-- A channel that the format lacks is reported before the operator behind it, which is none, and
after a whole valid statement. -/
theorem compile_error_lacking_channel :
    compile .rgb "R + 1e2\n C4 plus pi" =
        .error (.token (.channelOutOfRange 3) ⟨"c4", 3, 2⟩) ∧
      ¬ Role.target.Accepts .rgb "c4" ∧
      ∀ j < 3, ∀ u, (tokens "R + 1e2\n C4 plus pi")[j]? = some u →
        (Role.ofIndex j).Accepts .rgb u.text := by
  have h : compile .rgb "R + 1e2\n C4 plus pi" =
      .error (.token (.channelOutOfRange 3) ⟨"c4", 3, 2⟩) := by
    decide +kernel
  obtain ⟨i, t, -, -, -, -, hwhole⟩ := compile_error_first_fault h
  obtain ⟨hnot, hfirst, he⟩ := hwhole (by decide +kernel)
  obtain ⟨-, hsite⟩ := CompileError.token.inj he
  obtain ⟨htext, rfl, -⟩ := Site.mk.inj hsite
  rw [← htext] at hnot
  exact ⟨h, hnot, hfirst⟩

end PixelMath
