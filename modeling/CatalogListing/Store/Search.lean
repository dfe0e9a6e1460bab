/-
# Store.Search -- the full-text index

Text is cut into words: runs of the characters of words, where combining diacritics do
not interrupt a word and are left out.  Words are compared without case and diacritics, by their first
32768 bytes: what follows is cut off, also in the middle of a character.

The index lists, for each row, which word stands at which place.  Indexing a row
replaces what the index holds for its words, and removing a row takes away the words
of the text that is given, so an index follows its table as long as every change of
the table is told to it.

A query is a sequence of quoted strings.  Each is a phrase, whose words must stand
next to each other; a row is found when it holds all phrases.  A phrase without words
is left out, and a query without any phrase finds nothing.
-/
import CatalogListing.Select.RowTest
import CatalogListing.Store.Fault
import CatalogListing.Text.WordCharacter
import CatalogListing.Text.Fold
import CatalogListing.Text.Utf8

namespace CatalogListing.Search

set_option autoImplicit false

/-! ## Words -/

/-- The cutting of a text: the words before the present one, newest first, and the
present one in reverse, if the last character belongs to one. -/
structure Cut where
  words : List Text
  present : Option Text

/-- The cut with its present word complete. -/
def Cut.finish (cut : Cut) : List Text :=
  match cut.present with
  | some word => word.reverse :: cut.words
  | none => cut.words

/-- One more character. -/
def Cut.step (cut : Cut) (c : Char) : Cut :=
  if Text.isWordCharacter c then
    ⟨cut.words, some (Text.searchFold c :: cut.present.getD [])⟩
  else if Text.isCombining c && cut.present.isSome then cut
  else ⟨cut.finish, none⟩

/-- The most bytes of a word that count. -/
def maxWordBytes : Nat := 32768

/-- What a folded word is compared by. -/
def wordBytes (word : Text) : Bytes :=
  (Utf8.encode word).take maxWordBytes

/-- The words of a text, folded, in order. -/
def words (text : Text) : List Bytes :=
  (text.foldl Cut.step ⟨[], none⟩).finish.reverse.map wordBytes

/-! ## The index -/

/-- A word at a place of the text of a row. -/
structure Posting where
  row : Int
  word : Bytes
  place : Nat
  deriving DecidableEq, Repr

/-- The postings of a full-text index. -/
abbrev Index := List Posting

/-- The index without the postings of some words of a row. -/
def remove (index : Index) (row : Int) (text : Text) : Index :=
  let gone := words text
  index.filter fun posting => !(posting.row == row && gone.contains posting.word)

/-- The postings of a text. -/
def postings (row : Int) (text : Text) : Index :=
  (words text).zipIdx.map fun wordAt => ⟨row, wordAt.1, wordAt.2⟩

/-- The index with a row whose text is given. -/
def add (index : Index) (row : Int) (text : Text) : Index :=
  remove index row text ++ postings row text

/-- The index of rows and their texts. -/
def build (rows : List (Int × Text)) : Index :=
  rows.flatMap fun row => postings row.1 row.2

/-! ## Queries -/

/-- The strings of a query read character by character, newest first. -/
inductive Reading where
  | between (strings : List Text)
  | inside (strings : List Text) (present : Text)
  | quoteInside (strings : List Text) (present : Text)
  | wrong

/-- One more character of a query. -/
def Reading.step : Reading → Char → Reading
  | .between strings, c =>
      if c = '"' then .inside strings [] else if c = ' ' then .between strings else .wrong
  | .inside strings present, c =>
      if c = '"' then .quoteInside strings present else .inside strings (c :: present)
  | .quoteInside strings present, c =>
      if c = '"' then .inside strings (c :: present)
      else if c = ' ' then .between (present.reverse :: strings)
      else .wrong
  | .wrong, _ => .wrong

/-- The strings of a query; a doubled quote inside a string is one quote. -/
def strings (query : Text) : Except Fault (List Text) :=
  match query.foldl Reading.step (.between []) with
  | .between strings => .ok strings.reverse
  | .quoteInside strings present => .ok (present.reverse :: strings).reverse
  | .inside _ _ => .error (.rejected 1 "unterminated string")
  | .wrong => .error (.rejected 1 "fts5: syntax error")

/-- The phrases of a query, each a sequence of words.  The query ends at a NUL. -/
def phrases (query : Text) : Except Fault (List (List Bytes)) :=
  (strings (query.takeWhile fun c => c.toNat != 0)).map fun strings =>
    (strings.map words).filter fun phrase => !phrase.isEmpty

/-- The words stand next to each other in a row, the first at a place. -/
def phraseAt (index : Index) (row : Int) : Nat → List Bytes → Bool
  | _, [] => true
  | place, word :: rest => index.contains ⟨row, word, place⟩ && phraseAt index row (place + 1) rest

/-- A row holds a phrase. -/
def holdsPhrase (index : Index) (row : Int) (phrase : List Bytes) : Bool :=
  index.any fun posting => posting.row == row && phraseAt index row posting.place phrase

/-- A row holds every phrase, of which there is at least one. -/
def finds (index : Index) (phrases : List (List Bytes)) (row : Int) : Bool :=
  !phrases.isEmpty && phrases.all (holdsPhrase index row)

end CatalogListing.Search
