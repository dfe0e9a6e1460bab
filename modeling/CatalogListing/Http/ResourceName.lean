/-
# Http.ResourceName -- resource names in addresses

A resource name in an address has 1 to 64 characters, each a small letter, a digit or
an underscore.  Whether there is such a resource is decided elsewhere.
-/
import CatalogListing.Text.Basic

namespace CatalogListing.ResourceName

set_option autoImplicit false

/-- The character may stand in a resource name. -/
def isNameChar (c : Char) : Bool :=
  ('a' ≤ c && c ≤ 'z') || c.isDigit || c == '_'

/-- Every character may stand in a resource name. -/
def hasNameChars (name : Text) : Bool :=
  name.all isNameChar

/-- The name has 1 to 64 characters. -/
def hasNameLength (name : Text) : Bool :=
  1 ≤ name.length && name.length ≤ 64

def lengthMessage : Text :=
  "Invalid resource: must be 1-64 characters"

def charsMessage : Text :=
  "Invalid resource: must contain only lowercase letters, digits, or underscores"

/-- What is wrong with a name; nothing when it is well formed. -/
def faults (name : Text) : List Text :=
  (if hasNameLength name then [] else [lengthMessage]) ++
    if hasNameChars name then [] else [charsMessage]

end CatalogListing.ResourceName
