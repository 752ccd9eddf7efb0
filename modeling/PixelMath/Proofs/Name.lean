import PixelMath.Program.Basic
import PixelMath.Proofs.Number.Grammar
import PixelMath.Proofs.Symbol

/-!
# What names mean

The names of a format are its letters, the positional names of its channels, the names of the
scratch variables and those of the constants. Here it is written down what each of them means, apart
from the order in which the resolution looks them up, and the resolution is shown to find just this.

## Main definitions

* `Slot.Named`, `Symbol.Named` — the slots and symbols of a format under their names.
* `IsLackingChannel` — the positional names of channels that a format lacks.
* `Operand.Written` — the operands of a format as they are written.

## Main results

* `Symbol.resolve_eq_ok_some_iff`, `Symbol.resolve_eq_error_iff`, `Symbol.resolve_eq_ok_none_iff` —
  the three outcomes of the resolution.
* `Operator.ofSpelling?_eq_some_iff` — the look-up of operators.
-/

namespace PixelMath

/-! ### Names and their meaning -/

/-- The slots of a format under their names. Of two equal letters the first one counts, and `v` is
short for `v1`. -/
inductive Slot.Named (f : PixelFormat) : String → Slot → Prop
  | letter {c : Char} {i : Fin maxChannels} (hc : f.letters[i.val]? = some c)
      (hfirst : ∀ j < i.val, f.letters[j]? ≠ some c) : Named f c.toString (.channel i)
  | positional {i : Fin maxChannels} (hi : i.val < f.channels) :
      Named f (positionalName i) (.channel i)
  | short : Named f "v" (.scratch 0)
  | scratch (i : Fin scratchCount) : Named f (scratchName i) (.scratch i)

/-- The symbols of a format under their names. -/
inductive Symbol.Named (f : PixelFormat) : String → Symbol → Prop
  | slot {name : String} {s : Slot} (hs : s.Named f name) : Named f name (.slot s)
  | constant (c : Constant) : Named f c.name (.constant c)

/-- The operands of a format as they are written: as a name, or as a numeral for the double nearest
to the number that it denotes. -/
inductive Operand.Written (f : PixelFormat) : String → Operand → Prop
  | slot {text : String} {s : Slot} (hs : s.Named f text) : Written f text (.slot s)
  | constant (c : Constant) : Written f c.name (.constant c)
  | literal {text : String} {d : Decimal} (hd : Numeral.Denotes text.toList d) :
      Written f text (.literal d.toFloat)

/-- The text is the positional name of a channel that the format lacks. -/
def IsLackingChannel (f : PixelFormat) (text : String) : Prop :=
  ∃ i : Fin maxChannels, text = positionalName i ∧ f.channels ≤ i.val

instance (f : PixelFormat) : DecidablePred (IsLackingChannel f) :=
  fun _ => inferInstanceAs (Decidable (∃ _ : Fin maxChannels, _))

variable {f : PixelFormat} {name : String}

@[simp] theorem Symbol.named_slot_iff {s : Slot} : (slot s).Named f name ↔ s.Named f name := by
  refine ⟨fun h => ?_, .slot⟩
  cases h with
  | slot hs => exact hs

@[simp] theorem Symbol.named_constant_iff {c : Constant} :
    (constant c).Named f name ↔ name = c.name := by
  refine ⟨fun h => ?_, fun h => h ▸ .constant c⟩
  cases h
  rfl

@[simp] theorem Operand.written_slot_iff {s : Slot} :
    (slot s).Written f name ↔ s.Named f name := by
  refine ⟨fun h => ?_, .slot⟩
  cases h with
  | slot hs => exact hs

@[simp] theorem Operand.written_constant_iff {c : Constant} :
    (constant c).Written f name ↔ name = c.name := by
  refine ⟨fun h => ?_, fun h => h ▸ .constant c⟩
  cases h
  rfl

@[simp] theorem Operand.written_literal_iff {x : Float} :
    (literal x).Written f name ↔ Numeral.value? name = some x := by
  rw [Numeral.value?_eq_some_iff]
  refine ⟨fun h => ?_, ?_⟩
  · cases h with
    | literal hd => exact ⟨_, hd, rfl⟩
  · rintro ⟨d, hd, rfl⟩
    exact .literal hd

/-! ### Look-ups -/

theorem PixelFormat.channelIndex?_eq_some_iff {i : Fin maxChannels} :
    f.channelIndex? name = some i ↔
      ∃ c, f.letters[i.val]? = some c ∧ (∀ j < i.val, f.letters[j]? ≠ some c) ∧
        name = c.toString := by
  rw [channelIndex?, List.find?_eq_some_iff_getElem]
  constructor
  · rintro ⟨hi, k, hk, hget, hfirst⟩
    obtain ⟨c, hc, rfl⟩ := Option.map_eq_some_iff.mp (of_decide_eq_true hi)
    obtain rfl : k = i.val := by
      rw [← hget, List.getElem_finRange]
      rfl
    refine ⟨c, hc, fun j hj hjc => ?_, rfl⟩
    have hne := hfirst j hj
    rw [List.getElem_finRange] at hne
    simp [hjc] at hne
  · rintro ⟨c, hc, hfirst, rfl⟩
    refine ⟨by simp [hc], i.val, by simp, by simp, fun j hj => ?_⟩
    rw [List.getElem_finRange]
    simpa [String.singleton_inj] using hfirst j hj

theorem positionalIndex?_eq_some_iff {i : Fin maxChannels} :
    positionalIndex? name = some i ↔ name = positionalName i := by
  refine ⟨fun h => ?_, fun h => h ▸ positionalIndex?_positionalName i⟩
  exact (of_decide_eq_true (List.find?_some (p := fun i : Fin maxChannels =>
    decide (positionalName i = name)) h)).symm

theorem scratchIndex?_eq_some_iff {i : Fin scratchCount} :
    scratchIndex? name = some i ↔ name = "v" ∧ i = 0 ∨ name = scratchName i := by
  constructor
  · intro h
    rw [scratchIndex?] at h
    split_ifs at h with hv
    · exact .inl ⟨hv, (Option.some.inj h).symm⟩
    · exact .inr (of_decide_eq_true (List.find?_some (p := fun i : Fin scratchCount =>
        decide (scratchName i = name)) h)).symm
  · rintro (⟨rfl, rfl⟩ | rfl)
    · rfl
    · exact scratchIndex?_scratchName i

theorem Constant.ofName?_eq_some_iff {c : Constant} : ofName? name = some c ↔ name = c.name := by
  constructor
  · intro h
    exact (of_decide_eq_true (List.find?_some (p := fun c : Constant =>
      decide (c.name = name)) h)).symm
  · rintro rfl
    cases c <;> decide

/-- No operator has a spelling of another one. -/
theorem Operator.ofSpelling?_eq_some_iff {op : Operator} :
    ofSpelling? name = some op ↔ (name, op) ∈ spellings := by
  constructor
  · intro h
    obtain ⟨⟨_, _⟩, hfind, rfl⟩ := Option.map_eq_some_iff.mp h
    obtain rfl := of_decide_eq_true (List.find?_some (p := fun s : String × Operator =>
      decide (s.1 = name)) hfind)
    exact List.mem_of_find?_eq_some hfind
  · intro h
    have hall : ∀ s ∈ spellings, ofSpelling? s.1 = some s.2 := by decide
    exact hall _ h

namespace Symbol

variable {site : Site}

/-! ### The resolution -/

/-- **A text is resolved to what it names.** The order of the look-ups hides no name of the format
behind another one. -/
theorem resolve_eq_ok_some_iff {symbol : Symbol} :
    resolve f site = .ok (some symbol) ↔ symbol.Named f site.text := by
  constructor
  · intro h
    -- letters, then positional names, then scratch variables, then constants
    rw [resolve] at h
    split at h
    · rename_i i hi
      cases h
      obtain ⟨c, hc, hfirst, hname⟩ := PixelFormat.channelIndex?_eq_some_iff.mp hi
      exact .slot (hname ▸ .letter hc hfirst)
    · split at h
      · rename_i i hi
        split_ifs at h with hlt
        cases h
        exact .slot (positionalIndex?_eq_some_iff.mp hi ▸ .positional hlt)
      · split at h
        · rename_i i hi
          cases h
          rcases scratchIndex?_eq_some_iff.mp hi with ⟨hname, rfl⟩ | hname
          · exact .slot (hname ▸ .short)
          · exact .slot (hname ▸ .scratch i)
        · obtain ⟨c, hc, rfl⟩ := Option.map_eq_some_iff.mp (Except.ok.inj h)
          exact Constant.ofName?_eq_some_iff.mp hc ▸ .constant c
  · intro h
    generalize hname : site.text = name at h
    cases h with
    | slot hs =>
      cases hs with
      | letter hc hfirst =>
        have hindex := PixelFormat.channelIndex?_eq_some_iff.mpr ⟨_, hc, hfirst, hname⟩
        rw [resolve, hindex]
      | positional hi => exact resolve_slot_name hi hname
      | short =>
        -- `v` is no letter of a format, and it is short for a variable, not for a channel
        have hletter : f.channelIndex? "v" = none := by cases f <;> decide
        rw [resolve, hname, hletter]
        rfl
      | scratch i => exact resolve_slot_name trivial hname
    | constant c => exact resolve_constant_name hname

/-- The resolution fails at positional names of channels that the format lacks, and nowhere else. -/
theorem resolve_eq_error_iff {e : CompileError} :
    resolve f site = .error e ↔
      IsLackingChannel f site.text ∧ e = .token (.channelOutOfRange f.channels) site := by
  constructor
  · intro h
    rw [resolve] at h
    split at h
    · cases h
    · split at h
      · rename_i i hi
        split_ifs at h with hlt
        cases h
        exact ⟨⟨i, positionalIndex?_eq_some_iff.mp hi, Nat.le_of_not_lt hlt⟩, rfl⟩
      · split at h <;> cases h
  · rintro ⟨⟨i, hname, hi⟩, rfl⟩
    rw [resolve, hname, f.channelIndex?_positionalName]
    simp only [positionalIndex?_positionalName]
    exact if_neg (Nat.not_lt_of_le hi)

theorem not_isLackingChannel_of_resolve_eq_ok {symbol? : Option Symbol}
    (h : resolve f site = .ok symbol?) : ¬ IsLackingChannel f site.text :=
  fun hlacking => nomatch h.symm.trans (resolve_eq_error_iff.mpr ⟨hlacking, rfl⟩)

/-- All other texts are resolved to nothing. -/
theorem resolve_eq_ok_none_iff :
    resolve f site = .ok none ↔
      (∀ symbol : Symbol, ¬ symbol.Named f site.text) ∧ ¬ IsLackingChannel f site.text := by
  have hsome (symbol : Symbol) :
      resolve f site = .ok (some symbol) ↔ symbol.Named f site.text := resolve_eq_ok_some_iff
  cases h : resolve f site with
  | error e =>
    obtain ⟨hlacking, -⟩ := resolve_eq_error_iff.mp h
    exact iff_of_false (fun h => nomatch h) fun hnot => hnot.2 hlacking
  | ok symbol? =>
    cases symbol? with
    | none =>
      refine iff_of_true rfl ⟨fun symbol hsymbol => ?_, not_isLackingChannel_of_resolve_eq_ok h⟩
      exact nomatch h.symm.trans ((hsome symbol).mpr hsymbol)
    | some symbol => exact iff_of_false (fun h => nomatch h) fun hnot => hnot.1 _ ((hsome _).mp h)

end Symbol

end PixelMath
