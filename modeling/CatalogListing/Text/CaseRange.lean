/-
# Text.CaseRange -- mappings of characters given by ranges

A case mapping moves most characters by a distance that is the same for a whole
range of code points, or for every second one of a range.  This module looks a
character up in a table of such ranges.
-/
import CatalogListing.Text.Basic

namespace CatalogListing.Text

set_option autoImplicit false

/-- The code points from `first` to `last` that are a multiple of `step` after
`first`, and the distance at which each of them is mapped. -/
structure CaseRange where
  first : Nat
  last : Nat
  step : Nat
  distance : Int

/-- The range moves the code point. -/
def CaseRange.covers (range : CaseRange) (n : Nat) : Bool :=
  range.first ≤ n && n ≤ range.last && (n - range.first) % range.step == 0

/-- The image of a code point under the first range of the table that covers it;
the code point itself when none does. -/
def mapByRanges (table : List CaseRange) (n : Nat) : Nat :=
  match table.find? (·.covers n) with
  | some range => ((n : Int) + range.distance).toNat
  | none => n

end CatalogListing.Text
