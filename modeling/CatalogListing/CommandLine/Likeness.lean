/-
# CommandLine.Likeness -- how alike two words are

A word that nobody knows may be one that somebody knows, mistyped.  To measure how alike
two words are, each character of the first word meets the first free place of the second
word that holds the same character and lies within reach.  The measure is the mean of

* the share of the first word that meets a place,
* the share of the second word that is met,
* the share of these characters that come in the same order in both words.

The measure is a fraction of natural numbers, so that comparing it loses nothing.
-/
import CatalogListing.Text.Basic

namespace CatalogListing.Likeness

set_option autoImplicit false

/-- How far apart the places of a character in two words may lie. -/
def reach (first second : Text) : Nat :=
  max first.length second.length / 2 - 1

/-- The first free place of a word that holds a character and lies within reach of a
place. -/
def meeting? (word : Text) (reach place : Nat) (c : Char) (taken : List Nat) : Option Nat :=
  (List.range word.length).find? fun other =>
    place ≤ other + reach && other ≤ place + reach && word[other]? == some c &&
      !taken.contains other

/-- The places of a word that the characters of a text meet, one after the other; the
text starts at a place. -/
def meetings (word : Text) (reach : Nat) : Nat → Text → List Nat → List (Char × Nat)
  | _, [], _ => []
  | place, c :: rest, taken =>
      match meeting? word reach place c taken with
      | some other => (c, other) :: meetings word reach (place + 1) rest (other :: taken)
      | none => meetings word reach (place + 1) rest taken

/-- How many characters that meet are out of order, in pairs. -/
def disorder (word : Text) (met : List (Char × Nat)) : Nat :=
  let places := (List.range word.length).filter fun place => met.any fun m => m.2 == place
  ((met.zip places).filter fun (m, place) => word[place]? != some m.1).length / 2

/-- A fraction. -/
structure Fraction where
  numerator : Nat
  denominator : Nat
  deriving DecidableEq, Repr

/-- The fraction is at most another one. -/
def Fraction.atMost (x y : Fraction) : Bool :=
  x.numerator * y.denominator ≤ y.numerator * x.denominator

/-- How alike two words are, from zero to one. -/
def measure (first second : Text) : Fraction :=
  let met := meetings second (reach first second) 0 first []
  let common := met.length
  let ordered := common - disorder second met
  if common = 0 then ⟨0, 1⟩
  else
    ⟨common * common * second.length + common * common * first.length +
        ordered * first.length * second.length,
      3 * first.length * second.length * common⟩

/-- Words that are less alike are not mistaken for each other. -/
def threshold : Fraction := ⟨7, 10⟩

/-- The names that a word is alike to, the most alike one last. -/
def candidates (word : Text) (names : List Text) : List Text :=
  let measured := names.map fun name => (measure word name, name)
  let alike := measured.filter fun (likeness, _) => !likeness.atMost threshold
  (alike.mergeSort fun x y => x.1.atMost y.1).map (·.2)

/-- The name that a word is most alike to. -/
def closest? (word : Text) (names : List Text) : Option Text :=
  (candidates word names).getLast?

end CatalogListing.Likeness
