import PixelMath.Proofs.Pixel.Variable
import PixelMath.Proofs.Program.Language
import PixelMath.Proofs.Token.Append

/-!
# Programs of texts put together

Two program texts with blanks between them are a program text again, whose instructions are those of
the first text and then those of the second one: the tokens of the first text form whole statements,
so the statements of the second text start where its tokens do.

## Main results

* `Instruction.IsOfTokens.append_left`, `Instruction.IsOfTokens.append_right`,
  `Instruction.IsOfTokens.move` — an instruction among further tokens, and further on in a text.
* `compile_append_blanks` — the program of two texts.
-/

namespace PixelMath

variable {f : PixelFormat}

namespace Instruction.IsOfTokens

variable {ts us : List Token} {k : Nat} {i : Instruction}

theorem append_left (h : i.IsOfTokens f ts k) (us : List Token) : i.IsOfTokens f (ts ++ us) k := by
  obtain ⟨target, operator, operand, htarget, hoperator, hoperand, hnames⟩ := h
  have hget {j : Nat} {t : Token} (hj : ts[j]? = some t) : (ts ++ us)[j]? = some t :=
    (List.getElem?_append_left (List.getElem?_eq_some_iff.mp hj).1).trans hj
  exact ⟨target, operator, operand, hget htarget, hget hoperator, hget hoperand, hnames⟩

/-- Whole statements in front of an instruction raise its number. -/
theorem append_right {m : Nat} (hts : ts.length = 3 * m) (h : i.IsOfTokens f us k) :
    i.IsOfTokens f (ts ++ us) (m + k) := by
  obtain ⟨target, operator, operand, htarget, hoperator, hoperand, hnames⟩ := h
  have hget {r : Nat} {t : Token} (hr : us[3 * k + r]? = some t) :
      (ts ++ us)[3 * (m + k) + r]? = some t := by
    rw [List.getElem?_append_right (by omega), hts]
    have hindex : 3 * (m + k) + r - 3 * m = 3 * k + r := by omega
    rw [hindex, hr]
  exact ⟨target, operator, operand, hget (r := 0) htarget, hget hoperator, hget hoperand, hnames⟩

/-- Of its tokens, only the texts matter to an instruction. -/
theorem move (h : i.IsOfTokens f us k) (index line offset : Nat) :
    i.IsOfTokens f (us.map (Token.move index line offset)) k := by
  obtain ⟨target, operator, operand, htarget, hoperator, hoperand, hnames⟩ := h
  have hget {j : Nat} {t : Token} (hj : us[j]? = some t) :
      (us.map (Token.move index line offset))[j]? = some (t.move index line offset) := by
    rw [List.getElem?_map, hj, Option.map_some]
  exact ⟨_, _, _, hget htarget, hget hoperator, hget hoperand, hnames⟩

end Instruction.IsOfTokens

/-- **The program of two texts with blanks between them** has the instructions of both programs, one
after the other. -/
theorem compile_append_blanks {a b w : String} {p q : Program} (hne : w ≠ "")
    (hw : ∀ c ∈ w.toList, Text.isBlank c) (hp : compile f a = .ok p) (hq : compile f b = .ok q) :
    compile f (a ++ w ++ b) = .ok (p.append q) := by
  obtain ⟨hamod, hformat, hplength, hpall⟩ := compile_eq_ok_iff_isOfTokens.mp hp
  obtain ⟨hbmod, -, hqlength, hqall⟩ := compile_eq_ok_iff_isOfTokens.mp hq
  have hlength : (tokens a).length = 3 * p.instructions.length := by
    rw [Program.length] at hplength
    omega
  rw [compile_eq_ok_iff_isOfTokens, tokens_append_blanks a b hne hw, List.length_append,
    List.length_map]
  refine ⟨by omega, hformat, ?_, fun k i hi => ?_⟩
  · rw [Program.length] at hplength hqlength ⊢
    rw [Program.append, List.length_append]
    omega
  · rcases Nat.lt_or_ge k p.instructions.length with hlt | hge
    · rw [Program.append, List.getElem?_append_left hlt] at hi
      exact (hpall k i hi).append_left _
    · rw [Program.append, List.getElem?_append_right hge] at hi
      obtain ⟨j, rfl⟩ := Nat.exists_eq_add_of_le hge
      rw [Nat.add_sub_cancel_left] at hi
      exact ((hqall j i hi).move _ _ _).append_right hlength

end PixelMath
