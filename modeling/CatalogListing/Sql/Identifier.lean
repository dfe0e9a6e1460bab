/-
# Sql.Identifier -- quoted names and placeholder lists

A name is written between backticks with every backtick inside it doubled, so no
name can close its own quotes.
-/
import CatalogListing.Text.Basic

namespace CatalogListing.Sql

set_option autoImplicit false

/-- The character that quotes names. -/
def backtick : Char := '\x60'

/-- A name between backticks, those inside it doubled. -/
def quote (name : Text) : Text :=
  backtick :: (name.flatMap (fun c => if c = backtick then [backtick, backtick] else [c]) ++
    [backtick])

/-- A list of `count` placeholders. -/
def placeholders (count : Nat) : Text :=
  List.intercalate ", " (List.replicate count ['?'])

end CatalogListing.Sql
