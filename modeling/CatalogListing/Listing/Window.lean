/-
# Listing.Window -- books published within the last days

A request for books may give a count of days before the present.  The listing service
takes that key out of the filters and asks for books published since then, by a clause
of its own.  A value that is no positive count asks for nothing.
-/
import CatalogListing.Query.Parameters
import CatalogListing.Catalog

namespace CatalogListing.Window

set_option autoImplicit false

/-- The request key that gives the count of days. -/
def key : Text := "published_within_days"

/-- The clause for books published at an instant or later. -/
def clause : Text := "\x60published_at\x60 >= ?"

/-- Why there is no window: it starts before the earliest year that has dates. -/
inductive Failure where
  | beforeCalendar
  deriving DecidableEq, Repr

def Failure.message : Failure → Text
  | .beforeCalendar => "\x60DateTime - TimeDelta\x60 overflowed"

/-- A positive count of days. -/
def days? (raw : Text) : Option Nat :=
  (Text.unsigned32? (Text.trim raw)).filter (0 < ·)

/-- The instant a number of days before `now`. -/
def start (now : Instant) (days : Nat) : Instant :=
  now - 86400 * days

/-- The parameters with the window that the first of the values asks for. -/
def narrow (now : Instant) (parameters : Parameters) (values : List Text) :
    Except Failure Parameters :=
  match values.head?.bind days? with
  | none => .ok parameters
  | some days =>
      if Calendar.inRange (start now days) then
        .ok (parameters.addCustom clause [.text (Calendar.timestamp (start now days))])
      else .error .beforeCalendar

/-- The parameters after the service has taken out its own key. -/
def apply (now : Instant) (resource : Resource) (parameters : Parameters) :
    Except Failure Parameters :=
  if resource.name = Catalog.books.name then
    match parameters.takeFilter key with
    | (none, _) => .ok parameters
    | (some values, others) => narrow now others values
  else .ok parameters

end CatalogListing.Window
