import PixelMath.Text.LowerCase.Table

/-!
# Lower case

Full lower-casing of a text. It differs from mapping every character on its own in two places: a
capital I with a dot becomes two characters, and a capital sigma at the end of a word becomes the
final small sigma.

## Main definitions

* `lowerChar` — the lower case of one character, out of context.
* `endsWord` — whether a sigma stands at the end of a word.
* `lowerChars`, `toLower` — the lower case of a text.
-/

namespace PixelMath.Text

namespace CaseRow

/-- Whether the character is one of the capitals of the row. -/
def mem (r : CaseRow) (c : Char) : Bool :=
  decide (r.first ≤ c.toNat) && decide (c.toNat ≤ r.last) && (c.toNat - r.first) % r.step == 0

/-- The small letter of a capital of the row. -/
def lower (r : CaseRow) (c : Char) : Char :=
  Char.ofNat (c.toNat + r.shift).toNat

end CaseRow

/-- The lower case of a character that stands alone. -/
def lowerChar (c : Char) : List Char :=
  if c.toNat < 0x80 then [c.toLower]
  else if c = 'İ' then ['i', '\u0307']
  else match caseRows.find? (·.mem c) with
    | some r => [r.lower c]
    | none => [c]

/-- Whether the first character that is not case-ignorable is a cased one. -/
def meetsCased (cs : List Char) : Bool :=
  match cs.dropWhile (CodeRange.covers caseIgnorableRanges) with
  | [] => false
  | c :: _ => CodeRange.covers casedRanges c

/-- Whether a sigma is final: a cased character comes before it and none after it. The characters
before it are given nearest first. -/
def endsWord (before after : List Char) : Bool :=
  meetsCased before && !meetsCased after

/-- The lower case of the characters that follow `before`, which is given nearest first. -/
def lowerAfter (before : List Char) : List Char → List Char
  | [] => []
  | c :: cs =>
    (if c = 'Σ' then [if endsWord before cs then 'ς' else 'σ'] else lowerChar c) ++
      lowerAfter (c :: before) cs

/-- The lower case of a text, as characters. -/
def lowerChars (cs : List Char) : List Char :=
  lowerAfter [] cs

/-- The lower case of a text. -/
def toLower (text : String) : String :=
  String.ofList (lowerChars text.toList)

/-- On ASCII characters lower-casing works character by character. -/
theorem lowerAfter_of_ascii (before : List Char) :
    ∀ {cs : List Char}, (∀ c ∈ cs, c.toNat < 0x80) →
      lowerAfter before cs = cs.map Char.toLower
  | [], _ => rfl
  | c :: cs, h => by
    have hc : c.toNat < 0x80 := h c List.mem_cons_self
    have hs : c ≠ 'Σ' := by
      rintro rfl
      exact absurd hc (by decide)
    have ih := lowerAfter_of_ascii (c :: before)
      (fun d hd => h d (List.mem_cons_of_mem _ hd))
    simp [lowerAfter, hs, lowerChar, hc, ih]

end PixelMath.Text
