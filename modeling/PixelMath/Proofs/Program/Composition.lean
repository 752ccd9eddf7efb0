import PixelMath.Proofs.Program.Language
import PixelMath.Proofs.Program.Position
import PixelMath.Proofs.Token.Append

/-!
# Texts compiled in parts

Blanks between two texts keep their tokens apart, so the tokens of the second text only move on. If
the first text is a program, what the second one compiles to, a program or an error, stays the same
behind it but for the positions that an error names. If the first text is refused for one of its
tokens, it is refused with whatever statements behind it. Tokens left over behind the second text
would be found first, and tokens left over behind the first one form statements with the tokens of
the second one; in these two cases the parts do not decide the whole.

## Main definitions

* `CompileError.move` — an error about tokens further on in a text.

## Main results

* `compile_append` — the tokens and the outcome of two texts with blanks between them.
-/

namespace PixelMath

/-- The error, about tokens as many tokens and lines further on. -/
def CompileError.move (index line : Nat) : CompileError → CompileError
  | dangling texts i l => dangling texts (index + i) (line + l)
  | token fault site =>
    token fault { site with index := index + site.index, line := line + site.line }
  | strideMismatch format? channels stride => strideMismatch format? channels stride
  | unknownFormat name => unknownFormat name

/-- The positions that lie as many tokens, lines and bytes further on. -/
def Relocation.shift (index line offset : Nat) : Relocation where
  index := (index + ·)
  line := (line + ·)
  offset := (offset + ·)

theorem CompileError.relocate_shift (index line offset : Nat) :
    relocate (.shift index line offset) = move index line := by
  funext e
  cases e <;> rfl

variable {f : PixelFormat} {a b w : String} {e : CompileError}

/-- The outcome of tokens further on in a text. -/
theorem compileTokens_map_move (f : PixelFormat) (b : String) (index line offset : Nat) :
    compileTokens f ((tokens b).map (Token.move index line offset)) =
      (compile f b).mapError (CompileError.move index line) := by
  rw [compile_eq_compileTokens, ← CompileError.relocate_shift index line offset,
    ← compileTokens_map_relocate]
  rfl

/-- Behind a program, a text compiles as it does alone. -/
theorem compile_append_of_ok (hne : w ≠ "") (hw : ∀ c ∈ w.toList, Text.isBlank c) {p : Program}
    (ha : compile f a = .ok p) :
    compile f (a ++ w ++ b) =
      ((compile f b).mapError
        (CompileError.move (tokens a).length ((a ++ w).toList.count '\n'))).map p.append := by
  rw [compile_eq_compileTokens] at ha
  rw [compile_eq_compileTokens, tokens_append_blanks a b hne hw, compileTokens_append_of_ok ha,
    compileTokens_map_move]

/-- A text that is refused for one of its tokens is refused with further statements behind it. -/
theorem compile_append_of_error (hne : w ≠ "") (hw : ∀ c ∈ w.toList, Text.isBlank c)
    (ha : compile f a = .error e) (hrest : ∀ texts index line, e ≠ .dangling texts index line)
    (hb : (tokens b).length % 3 = 0) : compile f (a ++ w ++ b) = .error e := by
  have hwhole : (tokens a).length % 3 = 0 := by
    by_contra hmod
    obtain ⟨first, -, herror⟩ := compile_of_length_mod (f := f) hmod
    exact hrest _ _ _ (Except.error.inj (ha.symm.trans herror))
  rw [compile_eq_compileTokens] at ha
  rw [compile_eq_compileTokens, tokens_append_blanks a b hne hw]
  refine compileTokens_append_of_error ha (Statement.group_snd_eq_nil_iff.mpr hwhole) ?_
  rwa [Statement.group_snd_eq_nil_iff, List.length_map]

/-- **Texts compile in parts.** With blanks between two texts, the tokens of the second text stand
behind those of the first one, and are counted on from there. If the first text is a program, the
whole is the program of both, or has the error of the second text, counted on in the same way. If
the first text has an error other than tokens left over, and the second one forms whole statements,
the whole has this error. -/
theorem compile_append (hne : w ≠ "") (hw : ∀ c ∈ w.toList, Text.isBlank c) (f : PixelFormat)
    (a b : String) :
    let index := (tokens a).length
    let line := (a ++ w).toList.count '\n'
    let offset := (a ++ w).utf8ByteSize
    tokens (a ++ w ++ b) = tokens a ++ (tokens b).map (Token.move index line offset) ∧
      (∀ p, compile f a = .ok p →
        (∀ q, compile f b = .ok q →
          compile f (a ++ w ++ b) =
            .ok { format := f, instructions := p.instructions ++ q.instructions }) ∧
        ∀ e, compile f b = .error e → compile f (a ++ w ++ b) = .error (e.move index line)) ∧
      ∀ e, compile f a = .error e → (∀ texts i l, e ≠ .dangling texts i l) →
        (tokens b).length % 3 = 0 → compile f (a ++ w ++ b) = .error e := by
  refine ⟨tokens_append_blanks a b hne hw, fun p hp => ⟨fun q hq => ?_, fun e he => ?_⟩,
    fun e he => compile_append_of_error hne hw he⟩
  · obtain ⟨-, rfl, -⟩ := compile_eq_ok_iff.mp hp
    rw [compile_append_of_ok hne hw hp, hq]
    rfl
  · rw [compile_append_of_ok hne hw hp, he]
    rfl

/-- A program in front of another one and in front of an error, which is found two lines and six
tokens further on, and an error in front of a program. -/
theorem compile_append_rgb :
    let a := "v = r\nG + V\n"
    let b := "b max 2"
    compile .rgb (a ++ "\t" ++ b) =
        .ok ⟨.rgb, [⟨.scratch 0, .set, .slot (.channel 0)⟩,
          ⟨.channel 1, .add, .slot (.scratch 0)⟩,
          ⟨.channel 2, .max, .literal (.ofBits 0x4000000000000000)⟩]⟩ ∧
      compile .rgb "1 ? b" = .error (.token .notAssignable ⟨"1", 0, 1⟩) ∧
      compile .rgb (a ++ "\t" ++ "1 ? b") = .error (.token .notAssignable ⟨"1", 6, 3⟩) ∧
      compile .rgb ("1 ? b" ++ "\t" ++ a) = .error (.token .notAssignable ⟨"1", 0, 1⟩) := by
  have ha : compile .rgb "v = r\nG + V\n" =
      .ok ⟨.rgb, [⟨.scratch 0, .set, .slot (.channel 0)⟩,
        ⟨.channel 1, .add, .slot (.scratch 0)⟩]⟩ := by
    decide +kernel
  have hb : compile .rgb "b max 2" =
      .ok ⟨.rgb, [⟨.channel 2, .max, .literal (.ofBits 0x4000000000000000)⟩]⟩ := by
    decide +kernel
  have he : compile .rgb "1 ? b" = .error (.token .notAssignable ⟨"1", 0, 1⟩) := by
    decide +kernel
  have hwhole : (tokens "v = r\nG + V\n").length % 3 = 0 := by decide +kernel
  have hblank : "\t".toList.all Text.isBlank := by decide
  have hall := compile_append (by decide) (List.all_eq_true.mp hblank) .rgb
  refine ⟨((hall _ _).2.1 _ ha).1 _ hb, he, ?_, ?_⟩
  · rw [((hall _ _).2.1 _ ha).2 _ he]
    decide +kernel
  · exact (hall _ _).2.2 _ he (fun _ _ _ h => nomatch h) hwhole

end PixelMath
