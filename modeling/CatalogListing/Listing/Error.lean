/-
# Listing.Error -- why a listing failed

The failures that the listing service reports, whatever store lies beneath it.
-/
import CatalogListing.Store.Fault

namespace CatalogListing

set_option autoImplicit false

/-- Why the listing service failed. -/
inductive ListingError where
  | database (fault : Fault)
  | migrationFailed (backend : Text) (version : Int) (name reason : Text)
  | configuration (text : Text)
  | io (text : Text)
  | unknownResource (name : Text)
  deriving DecidableEq, Repr

namespace ListingError

/-- The failure that an error of the store is. -/
def ofStore : StoreError → ListingError
  | .database fault => .database fault
  | .migrationFailed version name reason => .migrationFailed "sqlite" version name reason
  | .io text => .io text

/-- The same request may succeed later. -/
def isTransient : ListingError → Bool
  | .database fault => fault.isTransient
  | _ => false

def message : ListingError → Text
  | .database fault => "SQLite error: " ++ fault.message
  | .migrationFailed backend version name reason =>
      migrationSubject version name ++ " on " ++ backend ++ ": " ++ reason
  | .configuration text => "Configuration error: " ++ text
  | .io text => "IO error: " ++ text
  | .unknownResource name => "Unknown resource: " ++ name

end ListingError

end CatalogListing
