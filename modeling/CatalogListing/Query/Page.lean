/-
# Query.Page -- the bounds of a page

The count of rows on a page and the row it starts at, resolved from what a request
supplied.  A value that is no positive number counts as none; a limit above the
maximum is the maximum.
-/
import CatalogListing.Text.Blank
import CatalogListing.Text.Number

namespace CatalogListing

set_option autoImplicit false

/-- The limit of a page when none is supplied, and the largest one. -/
structure PageBounds where
  defaultLimit : Nat
  maxLimit : Nat
  deriving DecidableEq, Repr

namespace PageBounds

/-- Twenty rows, and at most one hundred. -/
def standard : PageBounds :=
  ⟨20, 100⟩

/-- A positive number with white space around it, as far as a signed word of 64 bits
holds it. -/
def positive? (raw : Text) : Option Nat :=
  match Text.signed64? (Text.trim raw) with
  | some (.ofNat (n + 1)) => some (n + 1)
  | _ => none

/-- The limit for a supplied value. -/
def limit (bounds : PageBounds) (raw : Option Text) : Nat :=
  match raw.bind positive? with
  | some n => min n bounds.maxLimit
  | none => bounds.defaultLimit

/-- The offset for a supplied value. -/
def offset (raw : Option Text) : Nat :=
  (raw.bind positive?).getD 0

end PageBounds

end CatalogListing
