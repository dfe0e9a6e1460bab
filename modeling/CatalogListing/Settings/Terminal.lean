/-
# Settings.Terminal -- coloured text

Text for a terminal that shows colours but no hyperlinks.
-/
import CatalogListing.Text.Basic

namespace CatalogListing.Terminal

set_option autoImplicit false

/-- The escape sequence with a code. -/
def style (code : Text) : Text :=
  '\x1b' :: '[' :: code ++ ['m']

/-- A text in a style. -/
def styled (code text : Text) : Text :=
  style code ++ text ++ style ['0']

/-- An address in cyan. -/
def link (address : Text) : Text :=
  styled "36" address

end CatalogListing.Terminal
