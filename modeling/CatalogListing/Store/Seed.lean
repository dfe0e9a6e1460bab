/-
# Store.Seed -- the demo catalog

Four authors, six books and five reviews.  They are inserted as a whole, and only into
a database that has no authors.
-/
import CatalogListing.Store.Tables

namespace CatalogListing.Seed

set_option autoImplicit false

/-- A text, or null. -/
def optionalText (text : Option String) : Scalar :=
  match text with
  | some text => .text text
  | none => .null

def truth (b : Bool) : Scalar :=
  .integer (if b then 1 else 0)

/-- An author as the values of columns. -/
def author (createdAt : Text) (id : Int) (name country bio : String) (active : Bool)
    (bornAt : String) : List (Text × Scalar) :=
  [("id", .integer id), ("name", .text name), ("country", .text country), ("bio", .text bio),
    ("active", truth active), ("born_at", .text bornAt), ("created_at", .text createdAt)]

/-- A book as the values of columns; its price is given in hundredths. -/
def book (id authorId : Int) (title genre : String) (price : Nat) (pages : Int) (inStock : Bool)
    (isbn : Option String) (publishedAt : String) : List (Text × Scalar) :=
  [("id", .integer id), ("author_id", .integer authorId), ("title", .text title),
    ("genre", .text genre), ("price", .real (Binary64.ofRatio false price 100)),
    ("pages", .integer pages), ("in_stock", truth inStock), ("isbn", optionalText isbn),
    ("published_at", .text publishedAt)]

/-- A review as the values of columns. -/
def review (id bookId : Int) (reviewer : String) (rating : Int) (body : Option String)
    (createdAt : String) : List (Text × Scalar) :=
  [("id", .integer id), ("book_id", .integer bookId), ("reviewer", .text reviewer),
    ("rating", .integer rating), ("body", optionalText body), ("created_at", .text createdAt)]

def authors (createdAt : Text) : List (List (Text × Scalar)) := [
  author createdAt 1 "Ursula K. Le Guin" "US"
    "Wrote the Earthsea cycle and the Hainish novels." false "1929-10-21 00:00:00",
  author createdAt 2 "Terry Pratchett" "GB"
    "Author of the Discworld series." false "1948-04-28 00:00:00",
  author createdAt 3 "N. K. Jemisin" "US"
    "Three consecutive Hugo awards for the Broken Earth trilogy." true "1972-09-19 00:00:00",
  author createdAt 4 "Jo Nesbø" "NO"
    "Crime novelist and musician." true "1960-03-29 00:00:00"]

def books : List (List (Text × Scalar)) := [
  book 1 1 "A Wizard of Earthsea" "fantasy" 999 183 true (some "9780547773742")
    "1968-11-01 00:00:00",
  book 2 1 "The Left Hand of Darkness" "scifi" 1250 304 false (none)
    "1969-03-01 00:00:00",
  book 3 2 "Guards! Guards!" "fantasy" 899 416 true (some "9780062225757")
    "1989-11-01 00:00:00",
  book 4 2 "Small Gods" "fantasy" 1000 400 true (none)
    "1992-05-01 00:00:00",
  book 5 3 "The Fifth Season" "fantasy" 1599 512 true (some "9780316229296")
    "2015-08-04 00:00:00",
  book 6 4 "The Snowman" "crime" 1125 528 false (some "9780307595867")
    "2007-01-01 00:00:00"]

def reviews : List (List (Text × Scalar)) := [
  review 1 1 "mira" 5 (some "Timeless") "2023-01-10 00:00:00",
  review 2 1 "oskar" 4 (some "Quiet and deep") "2023-02-11 00:00:00",
  review 3 3 "mira" 5 (some "Hilarious") "2023-03-12 00:00:00",
  review 4 5 "li" 3 (none) "2024-04-13 00:00:00",
  review 5 6 "oskar" 2 (some "Too bleak") "2024-05-14 00:00:00"]

/-- The rows of the demo catalog, each with its table, in the order they are inserted. -/
def rows (createdAt : Text) : List (Text × List (Text × Scalar)) :=
  (authors createdAt).map (fun row => (Tables.authors.name, row)) ++
    books.map (fun row => (Tables.books.name, row)) ++
    reviews.map fun row => (Tables.reviews.name, row)

/-- The database with the demo catalog, and whether it was inserted; a database that has
authors stays as it is. -/
def run (createdAt : Text) (db : Database) : Except Fault (Database × Bool) := do
  let authors ← db.requireTable Tables.authors.name
  if authors.rows.isEmpty then
    let seeded ← (rows createdAt).foldlM (fun db row => db.insert row.1 row.2) db
    return (seeded, true)
  else return (db, false)

end CatalogListing.Seed
