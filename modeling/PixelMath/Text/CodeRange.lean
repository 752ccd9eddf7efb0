/-!
# Sets of characters given by code ranges

A property of characters is tabulated as a list of inclusive ranges of code points.

## Main definitions

* `CodeRange` — the code points from `first` to `last`.
* `CodeRange.covers` — whether some range of a table holds a character.
-/

namespace PixelMath.Text

/-- The code points from `first` to `last`, both included. -/
structure CodeRange where
  first : Nat
  last : Nat
deriving DecidableEq, Repr

namespace CodeRange

/-- Whether the range holds the character. -/
def mem (r : CodeRange) (c : Char) : Bool :=
  decide (r.first ≤ c.toNat) && decide (c.toNat ≤ r.last)

/-- Whether some range of the table holds the character. -/
def covers (table : List CodeRange) (c : Char) : Bool :=
  table.any (·.mem c)

theorem covers_eq_true_iff {table : List CodeRange} {c : Char} :
    covers table c = true ↔ ∃ r ∈ table, r.first ≤ c.toNat ∧ c.toNat ≤ r.last := by
  simp [covers, mem]

end CodeRange

end PixelMath.Text
