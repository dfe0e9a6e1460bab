/-
# Http.Policy -- requests from other origins

A browser asks with the method OPTIONS what it may send; such a request is answered
without looking at the route, except for the methods that it has.  Every response
repeats the origin of the request if it is one of the listed origins.

A list cannot hold the wildcard, so with it there is no policy.
-/
import CatalogListing.Http.Origin
import CatalogListing.Http.Router

namespace CatalogListing.Http

set_option autoImplicit false

/-- Why a request gets no response. -/
inductive Failure where
  /-- The wildcard is among the listed origins. -/
  | wildcardOrigin
  | window (failure : Window.Failure)
  deriving DecidableEq, Repr

def Failure.message : Failure → Text
  | .wildcardOrigin => Origin.wildcardMessage
  | .window failure => failure.message

/-- The origins that may read responses. -/
structure OriginPolicy where
  origins : List Text
  deriving DecidableEq, Repr

namespace OriginPolicy

/-- The policy that lists origins. -/
def ofOrigins (origins : List Text) : Except Failure OriginPolicy :=
  let listed := Origin.listed origins
  if listed.contains Origin.wildcard then .error .wildcardOrigin else .ok ⟨listed⟩

/-- The origin of a request, if it is listed. -/
def origin? (policy : OriginPolicy) (request : Request) : Option Text :=
  (request.header? "origin").filter fun origin => policy.origins.contains origin

/-- The response with the origin that may read it. -/
def mark (policy : OriginPolicy) (request : Request) (response : Response) : Response :=
  match policy.origin? request with
  | some origin => response.withHeader Response.allowOrigin origin
  | none => response

/-- The response to the question what may be sent. -/
def preflight (request : Request) : Response :=
  let response : Response :=
    ⟨200, [(Response.allowMethods, "GET,HEAD,OPTIONS"),
      (Response.allowHeaders, "content-type,accept,origin,cache-control")], .empty⟩
  match Route.ofPath? request.path with
  | some _ => response.withHeader Response.allow routeMethods
  | none => response

/-- The response to a request under the policy. -/
def respond (policy : OriginPolicy) (service : ListingService) (now : Instant)
    (request : Request) : Except Failure Response :=
  if request.method = "OPTIONS" then .ok (policy.mark request (preflight request))
  else match Http.respond service now request with
    | .ok response => .ok (policy.mark request response)
    | .error failure => .error (.window failure)

end OriginPolicy

/-- The response to a request where some origins may read responses. -/
def serve (service : ListingService) (origins : List Text) (now : Instant) (request : Request) :
    Except Failure Response := do
  let policy ← OriginPolicy.ofOrigins origins
  policy.respond service now request

end CatalogListing.Http
