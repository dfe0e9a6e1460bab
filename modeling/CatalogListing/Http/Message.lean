/-
# Http.Message -- requests and responses

A request has a method, a target and headers.  The target is a path and, behind a
question mark, a query; a fragment behind a number sign is no part of it.  A scheme and
an authority may stand before the path, which is a single slash when it is left out; a
target that is only an authority has no path.  A response has a status, headers and a
body, whose form decides the content type.
-/
import CatalogListing.Http.Problem
import CatalogListing.Text.Percent

namespace CatalogListing.Http

set_option autoImplicit false

/-! ## Requests -/

/-- A request. -/
structure Request where
  method : Text
  target : Text
  headers : List (Text × Text) := []
  deriving DecidableEq, Repr

namespace Request

/-- The text before the first `mark`; the whole text when there is none. -/
def before (mark : Char) (text : Text) : Text :=
  text.takeWhile (· != mark)

/-- What stands behind the authority. -/
def behindAuthority (text : Text) : Text :=
  text.dropWhile fun c => c != '/' && c != '?'

/-- A target from its path on. -/
def pathOn (target : Text) : Text :=
  if target.head? = some '/' || target = ['*'] then target
  else match Text.splitAtFirst ':' target with
    | some (_, '/' :: '/' :: rest) =>
        match behindAuthority rest with
        | '/' :: path => '/' :: path
        | query => '/' :: query
    | _ => []

/-- The target from its path on, without its fragment. -/
def resource (request : Request) : Text :=
  pathOn (before '#' request.target)

/-- The path as it was written. -/
def path (request : Request) : Text :=
  before '?' request.resource

/-- The pairs of the query, in the order they were written. -/
def pairs (request : Request) : List (Text × Text) :=
  match Text.splitAtFirst '?' request.resource with
  | some (_, query) => Percent.formPairs query
  | none => []

/-- The value of the first header of a name; names have no case. -/
def header? (request : Request) (name : Text) : Option Text :=
  (request.headers.find? fun header => header.1.map Char.toLower == name).map (·.2)

end Request

/-! ## Responses -/

/-- The body of a response. -/
inductive Body where
  | empty
  | json (value : Json)
  | page (html : Text)
  deriving Repr

/-- A response. -/
structure Response where
  status : Nat
  headers : List (Text × Text)
  body : Body
  deriving Repr

namespace Response

/-- The names of the headers that responses have. -/
def contentType : Text := "content-type"
def allow : Text := "allow"
def allowOrigin : Text := "access-control-allow-origin"
def allowMethods : Text := "access-control-allow-methods"
def allowHeaders : Text := "access-control-allow-headers"

/-- A response with a JSON body. -/
def ofJson (status : Nat) (body : Json) : Response :=
  ⟨status, [(contentType, "application/json")], .json body⟩

/-- A response with a page for browsers. -/
def ofPage (html : Text) : Response :=
  ⟨200, [(contentType, "text/html; charset=utf-8")], .page html⟩

/-- The response that reports a problem. -/
def ofProblem (problem : Problem) : Response :=
  ofJson problem.status problem.body

/-- The response with one more header. -/
def withHeader (response : Response) (name value : Text) : Response :=
  { response with headers := response.headers ++ [(name, value)] }

/-- The response without its body. -/
def withoutBody (response : Response) : Response :=
  { response with body := .empty }

end Response

end CatalogListing.Http
