/-
# Text.Blank -- white space

The characters with the property White_Space, and the trimming built on them.
The property holds of 25 code points; `Char.isWhitespace` knows six of them, each
of which is blank here too (`isBlank_of_isWhitespace`).
-/
import CatalogListing.Text.Basic

namespace CatalogListing.Text

set_option autoImplicit false

/-- The code point has the property White_Space. -/
def isBlank (c : Char) : Bool :=
  let n := c.toNat
  (9 ≤ n && n ≤ 13) || n == 0x20 || n == 0x85 || n == 0xA0 || n == 0x1680 ||
    (0x2000 ≤ n && n ≤ 0x200A) || n == 0x2028 || n == 0x2029 || n == 0x202F ||
    n == 0x205F || n == 0x3000

theorem isBlank_of_isWhitespace (c : Char) (white : c.isWhitespace = true) :
    isBlank c = true := by
  simp only [Char.isWhitespace, Bool.or_eq_true, decide_eq_true_eq] at white
  rcases white with ((rfl | rfl) | rfl) | rfl <;> decide

/-- The text without the characters at its end that satisfy `drops`. -/
def dropEndWhile (drops : Char → Bool) (text : Text) : Text :=
  (text.reverse.dropWhile drops).reverse

/-- The text without the characters at either end that satisfy `drops`. -/
def stripBoth (drops : Char → Bool) (text : Text) : Text :=
  dropEndWhile drops (text.dropWhile drops)

/-- The text without white space at either end. -/
def trim (text : Text) : Text :=
  stripBoth isBlank text

end CatalogListing.Text
