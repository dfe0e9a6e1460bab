/-
# Http.Router -- which request is answered how

The path of a request, as it was written, decides the route; the method decides
whether the route answers.  A resource name in a path is decoded and checked before
the listing service sees it.

* A listing is a page, or a problem that does not tell what went wrong inside.
* Without a route the response names the path.
-/
import CatalogListing.Http.Description
import CatalogListing.Http.Message
import CatalogListing.Http.Page
import CatalogListing.Http.ResourceName
import CatalogListing.Listing.Service

namespace CatalogListing.Http

set_option autoImplicit false

/-- What answers a request. -/
inductive Route where
  | health
  | catalog
  /-- The rows of the resource that a part of a path names. -/
  | listing (segment : Text)
  | interface
  | interfacePage
  deriving DecidableEq, Repr

namespace Route

/-- The path of the resources. -/
def resourcesPath : Text := "/api/v1/resources"

/-- The path behind the resources, if it is a single part. -/
def segment? (path : Text) : Option Text :=
  ((resourcesPath ++ ['/']).isPrefixOf? path).filter fun rest =>
    !rest.isEmpty && rest.all (· != '/')

/-- The route of a path. -/
def ofPath? (path : Text) : Option Route :=
  if path = "/api/v1/health" then some .health
  else if path = resourcesPath then some .catalog
  else if path = "/api/openapi.json" then some .interface
  else if path = "/api/docs" then some .interfacePage
  else (segment? path).map .listing

end Route

/-! ## Answers -/

/-- The resource name that a part of a path stands for, or what is wrong with it. -/
def resourceName (segment : Text) : Except Problem Text :=
  match Utf8.decode? (Percent.toBytes segment) with
  | none =>
      .error (.badRequest "PATH_PARSE_ERROR" "Invalid URL: Invalid UTF-8 in \x60resource\x60")
  | some name =>
      match ResourceName.faults name with
      | [] => .ok name
      | faults => .error (.badRequest "VALIDATION_ERROR" (List.intercalate "; " faults))

/-- The response that a result of the listing service is. -/
def ofListing : Except ListingError Listing → Response
  | .ok listing =>
      .ofJson 200 (pageBody (listing.rows.map .object) listing.limit listing.offset listing.total)
  | .error error => .ofProblem (.ofListing error)

/-- The rows of the resource that a part of a path names. -/
def answerListing (service : ListingService) (now : Instant) (segment : Text) (pairs : List Pair) :
    Except Window.Failure Response :=
  match resourceName segment with
  | .error problem => .ok (.ofProblem problem)
  | .ok name => (service.list now name pairs).map ofListing

/-- The state of the service. -/
def answerHealth (service : ListingService) : Response :=
  match service.ping with
  | .ok () => .ofJson 200 (healthBody true)
  | .error _ => .ofJson 503 (healthBody false)

/-- The answer of a route. -/
def Route.answer (service : ListingService) (now : Instant) (request : Request) :
    Route → Except Window.Failure Response
  | .health => .ok (answerHealth service)
  | .catalog => .ok (.ofJson 200 catalogBody)
  | .listing segment => answerListing service now segment request.pairs
  | .interface => .ok (.ofJson 200 Interface.body)
  | .interfacePage => .ok (.ofPage Interface.page)

/-! ## Methods -/

/-- The methods that routes answer. -/
def routeMethods : Text := "GET,HEAD"

/-- The method is one that routes answer. -/
def reads (method : Text) : Bool :=
  method = "GET" || method = "HEAD"

/-- The response to a method that a route does not answer. -/
def notAllowed : Response :=
  ⟨405, [(Response.allow, routeMethods)], .empty⟩

/-- The response to a path without a route. -/
def noRoute (path : Text) : Response :=
  .ofProblem (.notFound "ROUTE_NOT_FOUND" ("No route for " ++ path))

/-- The response to a request, with its body. -/
def respondFully (service : ListingService) (now : Instant) (request : Request) :
    Except Window.Failure Response :=
  match Route.ofPath? request.path with
  | none => .ok (noRoute request.path)
  | some route =>
      if reads request.method then route.answer service now request else .ok notAllowed

/-- The response to a request. -/
def respond (service : ListingService) (now : Instant) (request : Request) :
    Except Window.Failure Response := do
  let response ← respondFully service now request
  return if request.method = "HEAD" then response.withoutBody else response

end CatalogListing.Http
