/-
# Text -- character sequences and how they are cut

A text is a sequence of characters.  This module fixes that representation and
the few cuts the rest of the library makes in it: the pieces between separators,
the inside of a pair of delimiters, and the order in which texts are sorted.

* `Text.pieces` never loses a character: the pieces, joined by the separator,
  are the text again, and there is always at least one piece.
* `Text.enclosed?` finds an inside exactly when both delimiters fit without
  overlapping.
* `Text.precedes` is the order of code points, which is also the order of the
  UTF-8 bytes.
-/

namespace CatalogListing

set_option autoImplicit false

/-- A text: its characters in order. -/
abbrev Text := List Char

instance : Coe String Text := ⟨String.toList⟩

namespace Text

/-! ## Cutting at separators -/

/-- The pieces of a text between the characters that satisfy `separates`; the
text itself when there are none. -/
def pieces (separates : Char → Bool) (text : Text) : List Text :=
  text.foldr
    (fun c parts =>
      if separates c then [] :: parts
      else match parts with
        | [] => [[c]]
        | part :: rest => (c :: part) :: rest)
    [[]]

@[simp] theorem pieces_nil (separates : Char → Bool) : pieces separates [] = [[]] := rfl

theorem pieces_ne_nil (separates : Char → Bool) (text : Text) : pieces separates text ≠ [] := by
  cases text with
  | nil => simp
  | cons c rest =>
      simp only [pieces, List.foldr_cons]
      split
      · simp
      · split <;> simp

/-- The nonempty pieces between separating characters. -/
def words (separates : Char → Bool) (text : Text) : List Text :=
  (pieces separates text).filter fun piece => !piece.isEmpty

/-- The text before the first `mark` and the text after it. -/
def splitAtFirst (mark : Char) (text : Text) : Option (Text × Text) :=
  match text.dropWhile (· != mark) with
  | [] => none
  | _ :: after => some (text.takeWhile (· != mark), after)

/-- The pieces of a text between occurrences of `first` directly followed by
`second`, found from the left without overlap. -/
def piecesAtPair (first second : Char) : Text → List Text
  | [] => [[]]
  | [c] => [[c]]
  | c :: d :: rest =>
      if c = first ∧ d = second then [] :: piecesAtPair first second rest
      else match piecesAtPair first second (d :: rest) with
        | [] => [[c]]
        | part :: parts => (c :: part) :: parts

/-! ## Delimiters -/

/-- What stands between `opening` and `closing` when the text starts with the one
and ends with the other, the two not overlapping. -/
def enclosed? (opening closing text : Text) : Option Text :=
  (opening.isPrefixOf? text).bind closing.isSuffixOf?

/-- Whether `part` stands somewhere in the text. -/
def contains (part : Text) : Text → Bool
  | [] => part.isEmpty
  | c :: rest => part.isPrefixOf (c :: rest) || contains part rest

/-! ## Order -/

/-- The text comes strictly before the other in code point order. -/
def precedes : Text → Text → Bool
  | _, [] => false
  | [], _ :: _ => true
  | c :: rest, d :: others =>
      c.toNat < d.toNat || (c == d && precedes rest others)

end Text

end CatalogListing
