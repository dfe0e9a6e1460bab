/-
# Store.Wildcard -- patterns with wildcards

In a pattern, `%` stands for any run of characters and `_` for exactly one; every other
character stands for itself, without regard to the case of ASCII letters.  Pattern and
text end at their first NUL.

For each end of the pattern there is a row of truth values: whether that end matches
the text from each of its places on.  The rows are computed from the empty end to the
whole pattern, so matching takes time proportional to both lengths.
-/
import CatalogListing.Text.Utf8

namespace CatalogListing.Wildcard

set_option autoImplicit false

/-- The longest pattern, in bytes. -/
def maxBytes : Nat := 50000

/-- The text before its first NUL. -/
def beforeNul (text : Text) : Text :=
  text.takeWhile fun c => c.toNat != 0

/-- The pattern character stands for the text character. -/
def standsFor (pattern c : Char) : Bool :=
  pattern == '_' || pattern == c || pattern.toLower == c.toLower

/-- The row of the empty end: it matches at the end of the text only. -/
def emptyRow (text : Text) : List Bool :=
  text.map (fun _ => false) ++ [true]

/-- The row of an end that starts with a character, from the row behind it. -/
def rowOfChar (text : Text) (pattern : Char) (row : List Bool) : List Bool :=
  List.zipWith (fun c matched => standsFor pattern c && matched) text row.tail ++ [false]

/-- The row of an end that starts with `%`, from the row behind it. -/
def rowOfRun (row : List Bool) : List Bool :=
  row.foldr (fun matched later => (matched || later.headD false) :: later) []

/-- The row of an end of the pattern. -/
def row (text pattern : Text) : List Bool :=
  pattern.foldr (fun c row => if c = '%' then rowOfRun row else rowOfChar text c row)
    (emptyRow text)

/-- The pattern matches the text. -/
def matchesText (pattern text : Text) : Bool :=
  (row (beforeNul text) (beforeNul pattern)).headD false

/-- The pattern is longer than patterns may be. -/
def isTooLong (pattern : Text) : Bool :=
  maxBytes < (Utf8.encode pattern).length

end CatalogListing.Wildcard
