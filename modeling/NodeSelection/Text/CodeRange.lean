/-!
Ranges of code points, for character classes that are given as tables.
-/

namespace NodeSelection.Text

/-- The code points from `first` to `last`, both included. -/
structure CodeRange where
  first : Nat
  last : Nat
deriving DecidableEq, Repr

/-- The code point lies between the two ends. -/
def CodeRange.holds (r : CodeRange) (code : Nat) : Bool :=
  r.first ≤ code && code ≤ r.last

/-- Some range of the table holds the code point. -/
def inRanges (table : List CodeRange) (code : Nat) : Bool :=
  table.any (·.holds code)

end NodeSelection.Text
