import PixelMath.Proofs.Program.Language
import PixelMath.Proofs.Text.Ascii
import PixelMath.Proofs.Token.Run

/-!
# Programs are written in ASCII

Tokens are folded to lower case before they are looked up, so a character outside ASCII might be
read as one of ASCII. No accepted text holds the one letter for which this happens: every name,
every spelling of an operator and every numeral is of ASCII and free of the letter `k`. So nothing
but blanks may stand outside ASCII in a program, and a token with a character outside ASCII is at
fault wherever it stands.

## Main definitions

* `Span.asciiToken` — the token of a span, if only the letters of ASCII are folded.

## Main results

* `Role.Accepts.fromAscii` — the characters of accepted texts.
* `Span.isAscii_slice` — a token that is accepted was written in ASCII.
* `programs_are_ascii` — the characters of programs, and tokens with other characters.
-/

namespace PixelMath

/-! ### The alphabet of accepted texts -/

section Alphabet

variable {f : PixelFormat} {text : String}

theorem Slot.Named.fromAscii {s : Slot} (h : s.Named f text) :
    ∀ c ∈ text.toList, Text.FromAscii c := by
  refine List.all_iff_forall_prop.mp ?_
  cases h with
  | @letter c i hc hfirst =>
    have hletters : f.letters.all fun c => decide (Text.FromAscii c) := by cases f <;> decide
    have hletter := List.all_eq_true.mp hletters c (List.mem_of_getElem? hc)
    simpa [Char.toString] using hletter
  | @positional i hi =>
    clear hi
    revert i
    decide
  | short => decide
  | scratch i =>
    revert i
    decide

theorem Constant.fromAscii_name (c : Constant) : ∀ d ∈ c.name.toList, Text.FromAscii d := by
  refine List.all_iff_forall_prop.mp ?_
  cases c <;> decide

theorem Operator.fromAscii_of_mem_spellings {op : Operator} (h : (text, op) ∈ spellings) :
    ∀ c ∈ text.toList, Text.FromAscii c := by
  have hall : ∀ s ∈ spellings, s.1.toList.all fun c => decide (Text.FromAscii c) := by decide
  exact List.all_iff_forall_prop.mp (hall _ h)

theorem Numeral.fromAscii_of_isDigit {c : Char} (h : c.isDigit) : Text.FromAscii c := by
  obtain ⟨-, hlt, -⟩ := Text.isPlain_of_isDigit h
  refine ⟨hlt.trans (by decide), ?_⟩
  rintro rfl
  exact absurd h (by decide)

theorem Numeral.IsSign.fromAscii {cs : List Char} {negative : Bool} (h : IsSign cs negative) :
    ∀ c ∈ cs, Text.FromAscii c := by
  refine List.all_iff_forall_prop.mp ?_
  cases h <;> decide

theorem Numeral.IsDigits.fromAscii {cs : List Char} (h : IsDigits cs) :
    ∀ c ∈ cs, Text.FromAscii c :=
  fun c hc => fromAscii_of_isDigit (h.isDigit c hc)

theorem Numeral.IsMantissa.fromAscii {cs whole part : List Char} (h : IsMantissa cs whole part) :
    ∀ c ∈ cs, Text.FromAscii c := by
  have hpoint : Text.FromAscii '.' := by decide
  cases h with
  | whole hd => exact hd.fromAscii
  | point hd =>
    exact List.forall_mem_append.mpr ⟨hd.fromAscii, List.forall_mem_singleton.mpr hpoint⟩
  | places hd hp =>
    exact List.forall_mem_append.mpr
      ⟨hd.fromAscii, List.forall_mem_cons.mpr ⟨hpoint, hp.fromAscii⟩⟩
  | fraction hp => exact List.forall_mem_cons.mpr ⟨hpoint, hp.fromAscii⟩

theorem Numeral.IsExponent.fromAscii {cs : List Char} {e : Int} (h : IsExponent cs e) :
    ∀ c ∈ cs, Text.FromAscii c := by
  cases h with
  | absent => exact fun c hc => absurd hc List.not_mem_nil
  | present hmarker hs hd =>
    refine List.forall_mem_cons.mpr ⟨?_, List.forall_mem_append.mpr ⟨hs.fromAscii, hd.fromAscii⟩⟩
    rcases hmarker with rfl | rfl <;> decide

theorem Numeral.Denotes.fromAscii {cs : List Char} {d : Decimal} (h : Denotes cs d) :
    ∀ c ∈ cs, Text.FromAscii c := by
  cases h with
  | intro hs hm hx =>
    exact List.forall_mem_append.mpr
      ⟨hs.fromAscii, List.forall_mem_append.mpr ⟨hm.fromAscii, hx.fromAscii⟩⟩

/-- **Accepted texts are of ASCII** and free of the letter `k`, in every role. -/
theorem Role.Accepts.fromAscii {r : Role} (h : r.Accepts f text) :
    ∀ c ∈ text.toList, Text.FromAscii c := by
  cases r with
  | target =>
    obtain ⟨s, hs⟩ := h
    exact hs.fromAscii
  | operator =>
    obtain ⟨op, hop⟩ := h
    exact Operator.fromAscii_of_mem_spellings hop
  | operand =>
    obtain ⟨o, ho⟩ := h
    cases ho with
    | slot hs => exact hs.fromAscii
    | constant c => exact c.fromAscii_name
    | literal hd => exact hd.fromAscii

end Alphabet

/-! ### Tokens as they are written -/

namespace Span

variable {f : PixelFormat} {source : String} {s : Span}

/-- Token `k` of a text, if it is that of the span and only the letters of ASCII are folded. -/
def asciiToken (source : String) (k : Nat) (s : Span) : Token :=
  { s.token source k with
    text := String.ofList ((s.slice source.toList).map Char.toLower) }

/-- The text of a token is accepted only if the token was written in ASCII. -/
theorem isAscii_slice {r : Role} {k : Nat} (h : r.Accepts f (s.token source k).text) :
    ∀ c ∈ s.slice source.toList, Text.IsAscii c := by
  refine Text.isAscii_of_lowerChars ?_
  have haccepted := h.fromAscii
  rwa [token, Text.toLower, String.toList_ofList, String.toList_ofList] at haccepted

theorem token_eq_asciiToken (h : ∀ c ∈ s.slice source.toList, Text.IsAscii c) (k : Nat) :
    s.token source k = s.asciiToken source k := by
  rw [asciiToken, token, Text.toLower_ofList_of_isAscii h]

/-- A character at a position that the span holds is one of the span. -/
theorem mem_slice {cs : List Char} {i : Nat} {c : Char} (hc : cs[i]? = some c)
    (hi : s.Holds i) : c ∈ s.slice cs := by
  obtain ⟨hstart, hstop⟩ := hi
  refine List.mem_iff_getElem?.mpr ⟨i - s.start, ?_⟩
  rw [slice, List.getElem?_drop, Nat.add_sub_cancel' hstart, List.getElem?_take_of_lt hstop, hc]

end Span

/-! ### Programs -/

/-- **Programs are written in ASCII.** The tokens of a text are those of its runs, in their order.
If the text compiles, then every character other than a blank is one of ASCII, so each token is what
it is when only the letters of ASCII are folded. A token with a character outside ASCII is not valid
in any role, and where whole statements have no fault in front of it, it is the one that is
reported. -/
theorem programs_are_ascii (f : PixelFormat) (source : String) :
    ∃ runs : List Span, (∀ s, s ∈ runs ↔ s.IsRun source.toList) ∧
      (runs.Pairwise fun s s' => s.stop < s'.start) ∧
      tokens source = runs.mapIdx (fun k s => s.token source k) ∧
      (∀ p, compile f source = .ok p →
        (∀ c ∈ source.toList, Text.isBlank c = false → Text.IsAscii c) ∧
          tokens source = runs.mapIdx fun k s => s.asciiToken source k) ∧
      ∀ (i : Nat) (s : Span), runs[i]? = some s →
        (∃ c ∈ s.slice source.toList, ¬ Text.IsAscii c) →
          (∀ r : Role, ¬ r.Accepts f (s.token source i).text) ∧
            ((tokens source).length % 3 = 0 →
              (∀ j < i, ∀ u, (tokens source)[j]? = some u → (Role.ofIndex j).Accepts f u.text) →
                compile f source = .error (.token
                  ((Role.ofIndex i).fault f (s.token source i).text)
                  ⟨(s.token source i).text, i, (s.token source i).line⟩)) := by
  obtain ⟨runs, hscan, hmem, hsorted⟩ := Token.exists_runs_of_scan {} 0 source.toList
  have htokens : tokens source = runs.mapIdx fun k s => s.token source k := by
    simp only [Span.token_eq_ofSpan, tokens, hscan, Nat.zero_add]
  have hget {i : Nat} {s : Span} (hs : runs[i]? = some s) :
      (tokens source)[i]? = some (s.token source i) := by
    rw [htokens, List.getElem?_mapIdx, hs]
    rfl
  refine ⟨runs, hmem, hsorted, htokens, fun p hp => ?_, fun i s hs hother => ?_⟩
  · have hslice (s : Span) (hs : s ∈ runs) : ∀ c ∈ s.slice source.toList, Text.IsAscii c := by
      obtain ⟨k, hk⟩ := List.mem_iff_getElem?.mp hs
      exact Span.isAscii_slice (accepts_of_compile hp (hget hk))
    refine ⟨fun c hc hblank => ?_, ?_⟩
    · obtain ⟨i, hi⟩ := List.mem_iff_getElem?.mp hc
      obtain ⟨s, hs, hholds⟩ := Span.exists_isRun hi hblank
      exact hslice s ((hmem s).mpr hs) c (Span.mem_slice hi hholds)
    · rw [htokens]
      refine List.ext_getElem? fun k => ?_
      rw [List.getElem?_mapIdx, List.getElem?_mapIdx]
      cases hk : runs[k]? with
      | none => rfl
      | some s =>
        exact congrArg some (Span.token_eq_asciiToken (hslice s (List.mem_of_getElem? hk)) k)
  · obtain ⟨c, hc, hascii⟩ := hother
    have hnot (r : Role) : ¬ r.Accepts f (s.token source i).text :=
      fun h => hascii (Span.isAscii_slice h c hc)
    exact ⟨hnot, fun hlength hfirst => compile_of_first_fault hlength (hget hs) (hnot _) hfirst⟩

/-- The Kelvin sign is folded to a letter of ASCII, and refused all the same. -/
example :
    compile .rgb "r + 1\ng \u212A 2" = .error (.token .unknownOperator ⟨"k", 4, 2⟩) := by
  decide +kernel

end PixelMath
