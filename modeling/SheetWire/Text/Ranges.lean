/-!
# Sets of characters given by ranges

Character properties that no short rule describes are kept as increasing lists of ranges of code
points. `Ranges.covers` decides membership and stops at the first range that lies above the
character.
-/

namespace SheetWire.Text

/-- Disjoint ranges of code points, both ends included, in increasing order. -/
abbrev Ranges := List (Nat × Nat)

/-- Whether a code point lies in one of the ranges. -/
def Ranges.covers : Ranges → Nat → Bool
  | [], _ => false
  | (first, last) :: rest, code =>
      if code < first then false else code ≤ last || Ranges.covers rest code

end SheetWire.Text
