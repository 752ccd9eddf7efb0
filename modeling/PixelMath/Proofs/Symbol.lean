import Mathlib.Data.List.Basic
import Mathlib.Data.Nat.Basic
import PixelMath.Number.Numeral
import PixelMath.Symbol

/-!
# Names of symbols

Each symbol is found under the name by which it is listed, in every format that has it: no letter
of a format is a positional name, a name of a variable or a constant. A text that is no name of
any format is no symbol of any format, and no name is a numeral.

## Main definitions

* `Symbol.spellings` — the names of all formats.

## Main results

* `Symbol.resolve_slot_name`, `Symbol.resolve_constant_name` — symbols under their listed names.
* `Symbol.resolve_of_not_mem_spellings`, `Symbol.resolve_of_isSome_decimal?` — texts that are no
  names.
* `Symbol.fits_of_resolve` — a resolved slot is one of the format.
-/

namespace PixelMath

variable {f : PixelFormat} {site : Site}

namespace PixelFormat

theorem letter_of_channelIndex? {name : String} {i : Fin maxChannels}
    (h : f.channelIndex? name = some i) : f.letters[i.val]?.map Char.toString = some name :=
  of_decide_eq_true (List.find?_some (p := fun i : Fin maxChannels =>
    decide (f.letters[i.val]?.map Char.toString = some name)) h)

/-- Only a channel that the format has can have a letter. -/
theorem lt_channels_of_channelIndex? {name : String} {i : Fin maxChannels}
    (h : f.channelIndex? name = some i) : i.val < f.channels := by
  refine lt_of_lt_of_le ?_ f.length_letters_le
  by_contra hge
  have hletter := letter_of_channelIndex? h
  rw [List.getElem?_eq_none (Nat.le_of_not_lt hge)] at hletter
  exact absurd hletter (by simp)

theorem channelIndex?_eq_none {name : String}
    (h : name ∉ f.letters.map Char.toString) : f.channelIndex? name = none := by
  rw [channelIndex?, List.find?_eq_none]
  intro i _ hi
  obtain ⟨c, hc, rfl⟩ := Option.map_eq_some_iff.mp (of_decide_eq_true hi)
  exact h (List.mem_map_of_mem (List.mem_of_getElem? hc))

/-- No letter of a format is a positional name. -/
theorem channelIndex?_positionalName (f : PixelFormat) (i : Fin maxChannels) :
    f.channelIndex? (positionalName i) = none := by
  revert i
  cases f <;> decide

/-- No letter of a format is the name of a variable. -/
theorem channelIndex?_scratchName (f : PixelFormat) (i : Fin scratchCount) :
    f.channelIndex? (scratchName i) = none := by
  revert i
  cases f <;> decide

/-- No letter of a format is the name of a constant. -/
theorem channelIndex?_constantName (f : PixelFormat) (c : Constant) :
    f.channelIndex? c.name = none := by
  cases f <;> cases c <;> decide

end PixelFormat

theorem positionalIndex?_positionalName :
    ∀ i : Fin maxChannels, positionalIndex? (positionalName i) = some i := by
  decide

theorem positionalIndex?_scratchName :
    ∀ i : Fin scratchCount, positionalIndex? (scratchName i) = none := by
  decide

theorem scratchIndex?_scratchName :
    ∀ i : Fin scratchCount, scratchIndex? (scratchName i) = some i := by
  decide

theorem positionalIndex?_eq_none {name : String}
    (h : name ∉ (List.finRange maxChannels).map positionalName) : positionalIndex? name = none := by
  rw [positionalIndex?, List.find?_eq_none]
  exact fun i hi hname => h (of_decide_eq_true hname ▸ List.mem_map_of_mem hi)

theorem scratchIndex?_eq_none {name : String} (hv : name ≠ "v")
    (h : name ∉ (List.finRange scratchCount).map scratchName) : scratchIndex? name = none := by
  rw [scratchIndex?, if_neg hv, List.find?_eq_none]
  exact fun i hi hname => h (of_decide_eq_true hname ▸ List.mem_map_of_mem hi)

theorem Constant.ofName?_eq_none {name : String} (h : name ∉ all.map Constant.name) :
    ofName? name = none := by
  rw [ofName?, List.find?_eq_none]
  exact fun c hc hname => h (of_decide_eq_true hname ▸ List.mem_map_of_mem hc)

namespace Symbol

/-! ### Listed names -/

/-- A slot that the format has is found under the name by which it is listed. -/
theorem resolve_slot_name {s : Slot} (hs : s.Fits f.channels) (h : site.text = s.name) :
    resolve f site = .ok (some (.slot s)) := by
  cases s with
  | channel i =>
    rw [resolve, h, Slot.name, f.channelIndex?_positionalName]
    simp only [positionalIndex?_positionalName]
    exact if_pos hs
  | scratch i =>
    rw [resolve, h, Slot.name, f.channelIndex?_scratchName]
    simp only [positionalIndex?_scratchName, scratchIndex?_scratchName]

/-- A constant is found under its name in every format. -/
theorem resolve_constant_name {c : Constant} (h : site.text = c.name) :
    resolve f site = .ok (some (.constant c)) := by
  have hpositional : positionalIndex? c.name = none := by cases c <;> decide
  have hscratch : scratchIndex? c.name = none := by cases c <;> decide
  have hname : Constant.ofName? c.name = some c := by cases c <;> decide
  rw [resolve, h, f.channelIndex?_constantName]
  simp only [hpositional, hscratch, hname, Option.map_some]

/-! ### Texts that are no names -/

/-- The names of all formats. -/
def spellings : List String :=
  (PixelFormat.all.flatMap PixelFormat.letters).map Char.toString ++
    (List.finRange maxChannels).map positionalName ++
    "v" :: (List.finRange scratchCount).map scratchName ++
    Constant.all.map Constant.name

/-- A text that is no name of any format is no symbol. -/
theorem resolve_of_not_mem_spellings (h : site.text ∉ spellings) :
    resolve f site = .ok none := by
  simp only [spellings, List.mem_append, List.mem_cons, not_or] at h
  obtain ⟨⟨⟨hletter, hpositional⟩, hv, hscratch⟩, hconstant⟩ := h
  have hf : site.text ∉ f.letters.map Char.toString := by
    refine mt (fun hmem => ?_) hletter
    obtain ⟨c, hc, hname⟩ := List.mem_map.mp hmem
    exact List.mem_map.mpr ⟨c, List.mem_flatMap_of_mem f.mem_all hc, hname⟩
  simp only [resolve, PixelFormat.channelIndex?_eq_none hf, positionalIndex?_eq_none hpositional,
    scratchIndex?_eq_none hv hscratch, Constant.ofName?_eq_none hconstant, Option.map_none]

/-- No name is a numeral. -/
theorem decimal?_of_mem_spellings {name : String} (h : name ∈ spellings) :
    Numeral.decimal? name = none := by
  revert name
  decide

/-- A numeral is no symbol of any format. -/
theorem resolve_of_isSome_decimal? (h : (Numeral.decimal? site.text).isSome) :
    resolve f site = .ok none := by
  refine resolve_of_not_mem_spellings fun hmem => ?_
  rw [decimal?_of_mem_spellings hmem] at h
  exact absurd h (by decide)

/-! ### Resolved slots -/

/-- A slot that a text names in a format is one of the format. -/
theorem fits_of_resolve {s : Slot} (h : resolve f site = .ok (some (.slot s))) :
    s.Fits f.channels := by
  rw [resolve] at h
  split at h
  · rename_i i hi
    cases h
    exact PixelFormat.lt_channels_of_channelIndex? hi
  · split at h
    · split_ifs at h with hlt
      cases h
      exact hlt
    · split at h
      · cases h
        trivial
      · cases hc : Constant.ofName? site.text with
        | none => simp [hc] at h
        | some c => simp [hc] at h

end Symbol

end PixelMath
