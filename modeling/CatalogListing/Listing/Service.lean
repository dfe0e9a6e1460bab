/-
# Listing.Service -- listings by name

The listing service answers a request for a resource by its name: it looks the
resource up, resolves the parameters that the pairs of the request ask for, adds the
window of its own, and has the store fetch the page.

* A name that no resource has is reported before anything else is looked at.
* The answer comes with the limit and the offset that were applied.
-/
import CatalogListing.Listing.Error
import CatalogListing.Listing.Window
import CatalogListing.Store.Connection

namespace CatalogListing

set_option autoImplicit false

/-- A page of a resource, with the bounds that were applied to it and the count of all
matching rows. -/
structure Listing where
  rows : List Record
  total : Nat
  limit : Nat
  offset : Nat

/-- A store with the bounds of its pages. -/
structure ListingService where
  store : Store
  bounds : PageBounds := PageBounds.standard

namespace ListingService

/-- The page of a resource that parameters ask for. -/
def page (service : ListingService) (resource : Resource) (parameters : Parameters) :
    Except ListingError Listing :=
  match service.store.fetch (Selection.ofParameters resource parameters) parameters.preload with
  | .ok listed => .ok ⟨listed.rows, listed.total, parameters.limit, parameters.offset⟩
  | .error fault => .error (.database fault)

/-- The listing of a name for the pairs of a request, or its failure.  There is neither
when the window of the service leaves the calendar. -/
def list (service : ListingService) (now : Instant) (name : Text) (pairs : List Pair) :
    Except Window.Failure (Except ListingError Listing) :=
  match Catalog.find? name with
  | none => .ok (.error (.unknownResource name))
  | some resource => do
      let parameters ← Window.apply now resource (Parameters.ofPairs pairs service.bounds)
      return service.page resource parameters

/-- A sign of life of the store. -/
def ping (service : ListingService) : Except ListingError Unit :=
  service.store.ping.mapError .database

end ListingService

end CatalogListing
