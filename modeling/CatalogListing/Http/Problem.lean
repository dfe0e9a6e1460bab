/-
# Http.Problem -- error responses

A request that is not answered with data is answered with a problem: a status, a kind,
a code and a message.  What a failure of the database says stays inside; the problem
only tells whether to try again.
-/
import CatalogListing.Listing.Error
import CatalogListing.Json.Value

namespace CatalogListing

set_option autoImplicit false

/-- Why a request is not answered with data. -/
inductive Problem where
  | badRequest (code message : Text)
  | notFound (code message : Text)
  | unavailable (message : Text)
  | internal (message : Text)
  deriving DecidableEq, Repr

namespace Problem

def status : Problem → Nat
  | .badRequest .. => 400
  | .notFound .. => 404
  | .unavailable _ => 503
  | .internal _ => 500

def kind : Problem → Text
  | .badRequest .. => "bad_request"
  | .notFound .. => "not_found"
  | .unavailable _ => "service_unavailable"
  | .internal _ => "internal_error"

def code : Problem → Text
  | .badRequest code _ | .notFound code _ => code
  | .unavailable _ => "SERVICE_UNAVAILABLE"
  | .internal _ => "INTERNAL"

def message : Problem → Text
  | .badRequest _ message | .notFound _ message => message
  | .unavailable message | .internal message => message

/-- The body of the response. -/
def body (problem : Problem) : Json :=
  .object [("error", .text problem.kind), ("code", .text problem.code),
    ("message", .text problem.message)]

/-- The problem that a failed listing is. -/
def ofListing (error : ListingError) : Problem :=
  match error with
  | .unknownResource _ => .notFound "RESOURCE_NOT_FOUND" error.message
  | _ =>
    if error.isTransient then .unavailable "Database temporarily unavailable"
    else .internal "Database operation failed"

end Problem

end CatalogListing
