import PixelMath.Proofs.Program.Position
import PixelMath.Proofs.Token.Layout

/-!
# Layout and letter case of program texts

What a text compiles to depends on the texts of its tokens; their lines only show in errors. So
texts that differ in layout and letter case are the same program, or are refused for the same fault
of the same token, on whatever line it stands in each of them.

## Main definitions

* `CompileError.withLine` — an error on another line.

## Main results

* `compile_of_texts_eq` — texts whose tokens have the same texts.
* `compile_cosmetic` — texts that differ in layout and letter case.
-/

namespace PixelMath

namespace CompileError

/-- The same error on the given line. -/
def withLine (line : Nat) : CompileError → CompileError
  | dangling texts index _ => dangling texts index line
  | token fault site => token fault { site with line := line }
  | strideMismatch format? channels stride => strideMismatch format? channels stride
  | unknownFormat name => unknownFormat name

/-- Errors that are the same on some line differ in their line at most. -/
theorem exists_eq_withLine {e e' : CompileError} {line : Nat}
    (h : e.withLine line = e'.withLine line) : ∃ l, e' = e.withLine l := by
  cases e with
  | dangling texts index l =>
    cases e' with
    | dangling texts' index' l' =>
      cases h
      exact ⟨l', rfl⟩
    | token | strideMismatch | unknownFormat => cases h
  | token fault site =>
    cases e' with
    | token fault' site' =>
      cases site'
      cases h
      exact ⟨_, rfl⟩
    | dangling | strideMismatch | unknownFormat => cases h
  | strideMismatch | unknownFormat =>
    cases e' <;> cases h
    exact ⟨line, rfl⟩

end CompileError

/-- Every token on one line, with its index as it is. -/
def Relocation.onLine (line : Nat) : Relocation where
  index := id
  line _ := line
  offset _ := 0

theorem CompileError.relocate_onLine (line : Nat) :
    relocate (.onLine line) = withLine line := by
  funext e
  cases e <;> rfl

variable {f : PixelFormat} {s s' : String}

/-- Tokens with the same texts only differ in where they stand. -/
theorem map_relocate_of_texts_eq (h : (tokens s).map (·.text) = (tokens s').map (·.text))
    (line : Nat) :
    (tokens s).map (Token.relocate (.onLine line)) =
      (tokens s').map (Token.relocate (.onLine line)) := by
  have hlength := congrArg List.length h
  rw [List.length_map, List.length_map] at hlength
  refine List.ext_getElem (by simpa using hlength) fun k hk hk' => ?_
  rw [List.length_map] at hk hk'
  have htext : (tokens s)[k].text = (tokens s')[k].text := by
    simpa [hk, hk'] using congrArg (·[k]?) h
  rw [List.getElem_map, List.getElem_map, Token.relocate, Token.relocate, htext,
    index_of_getElem?_tokens (List.getElem?_eq_getElem hk),
    index_of_getElem?_tokens (List.getElem?_eq_getElem hk')]
  rfl

/-- **Compiling depends on the texts of tokens.** The lines on which they stand only show in
errors. -/
theorem compile_of_texts_eq (h : (tokens s).map (·.text) = (tokens s').map (·.text)) (line : Nat) :
    (compile f s).mapError (CompileError.withLine line) =
      (compile f s').mapError (CompileError.withLine line) := by
  rw [← CompileError.relocate_onLine, compile_eq_compileTokens, compile_eq_compileTokens,
    ← compileTokens_map_relocate, ← compileTokens_map_relocate, map_relocate_of_texts_eq h]

/-- **Layout and letter case are cosmetic.** Texts that differ in them compile to the same program,
or are refused with errors that differ in their line at most. -/
theorem compile_cosmetic (h : Cosmetic s s') (f : PixelFormat) :
    (∃ p, compile f s = .ok p ∧ compile f s' = .ok p) ∨
      ∃ e line, compile f s = .error e ∧ compile f s' = .error (e.withLine line) := by
  have houtcome := compile_of_texts_eq (f := f) h.texts_eq 0
  cases hs : compile f s with
  | ok p =>
    cases hs' : compile f s' with
    | ok p' =>
      rw [hs, hs'] at houtcome
      cases houtcome
      exact .inl ⟨p, rfl, rfl⟩
    | error e' =>
      rw [hs, hs'] at houtcome
      cases houtcome
  | error e =>
    cases hs' : compile f s' with
    | ok p' =>
      rw [hs, hs'] at houtcome
      cases houtcome
    | error e' =>
      rw [hs, hs'] at houtcome
      obtain ⟨line, rfl⟩ := CompileError.exists_eq_withLine (Except.error.inj houtcome)
      exact .inr ⟨e, line, rfl, rfl⟩

/-- A capital sigma behind a letter is a final one, in whichever case this letter is written, and
the token it ends is refused wherever it stands. -/
theorem compile_cosmetic_sigma :
    Cosmetic "r + aΣ" "\n R +\tAΣ " ∧
      compile .rgb "r + aΣ" = .error (.token .unknownIdentifier ⟨"aς", 2, 1⟩) ∧
      ∃ line, compile .rgb "\n R +\tAΣ " = .error (.token .unknownIdentifier ⟨"aς", 2, line⟩) := by
  have hblank {g : List Char} (hg : g.all Text.isBlank) : ∀ c ∈ g, Text.isBlank c :=
    List.all_eq_true.mp hg
  have hcase : CosmeticEdit "r + aΣ".toList "R + AΣ".toList := .letterCase (by decide)
  have hgap : CosmeticEdit "R + AΣ".toList "R +\tAΣ".toList :=
    .gap "R +".toList "AΣ".toList (by decide : [' '] ≠ []) (by decide : ['\t'] ≠ [])
      (hblank (by decide)) (hblank (by decide))
  have hfront : CosmeticEdit "R +\tAΣ".toList "\n R +\tAΣ".toList :=
    .front _ (g := []) (hblank (by decide)) (hblank (by decide : ['\n', ' '].all Text.isBlank))
  have hback : CosmeticEdit "\n R +\tAΣ".toList "\n R +\tAΣ ".toList :=
    .back "\n R +\tAΣ".toList (g := []) (hblank (by decide))
      (hblank (by decide : [' '].all Text.isBlank))
  have hedits : Cosmetic "r + aΣ" "\n R +\tAΣ " :=
    .tail (.tail (.tail (.single hcase) hgap) hfront) hback
  have he : compile .rgb "r + aΣ" = .error (.token .unknownIdentifier ⟨"aς", 2, 1⟩) := by
    decide +kernel
  refine ⟨hedits, he, ?_⟩
  rcases compile_cosmetic hedits .rgb with ⟨p, hp, -⟩ | ⟨e, line, he', hmoved⟩
  · cases he.symm.trans hp
  · cases he.symm.trans he'
    exact ⟨line, hmoved⟩

end PixelMath
