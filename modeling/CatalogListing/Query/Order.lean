/-
# Query.Order -- the order of rows

A request orders rows by fields, each ascending or, with a minus sign in front,
descending.  Whether the field can be ordered by is decided elsewhere.
-/
import CatalogListing.Text.Blank
import CatalogListing.Sql.Identifier

namespace CatalogListing

set_option autoImplicit false

/-- One field to order by. -/
structure OrderTerm where
  field : Text
  descending : Bool
  deriving DecidableEq, Repr

namespace OrderTerm

/-- The term that a value asks for; an empty field asks for none. -/
def ofText? (raw : Text) : Option OrderTerm :=
  let (field, descending) := match Text.trim raw with
    | '-' :: rest => (Text.trim rest, true)
    | text => (text, false)
  if field.isEmpty then none else some ⟨field, descending⟩

/-- The word of the direction. -/
def direction (term : OrderTerm) : Text :=
  if term.descending then "desc" else "asc"

/-- The term as it was asked for: field and direction. -/
def clause (term : OrderTerm) : Text :=
  term.field ++ ' ' :: term.direction

/-- The term in SQL. -/
def sql (term : OrderTerm) : Text :=
  Sql.quote term.field ++ if term.descending then " DESC" else " ASC"

end OrderTerm

end CatalogListing
