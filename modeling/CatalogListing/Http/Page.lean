/-
# Http.Page -- the body of a page

A page of rows with the bounds that were applied and the count of all matching rows.
-/
import CatalogListing.Json.Value

namespace CatalogListing.Http

set_option autoImplicit false

/-- The body of a response with a page of rows. -/
def pageBody (rows : List Json) (limit offset total : Nat) : Json :=
  .object [("data", .array rows),
    ("meta", .object [("limit", .integer limit), ("offset", .integer offset),
      ("total_items", .integer total)])]

end CatalogListing.Http
