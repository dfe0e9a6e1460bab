/-
# Store.Tables -- the tables of the catalog

The tables that a database of the catalog has, beside two that record which schema it
has: `schema_version`, with one row, and `schema_migrations`, with a row for each
version that was reached.
-/
import CatalogListing.Store.Database

namespace CatalogListing.Tables

set_option autoImplicit false

/-- The version of the schema. -/
def schemaVersion : Schema where
  name := "schema_version"
  key := "id"
  keyCheck := some (.equals 1)
  columns := [
    ⟨"version", .integer, true, .null, none, false⟩,
    ⟨"applied_at", .integer, true, .null, none, false⟩,
    ⟨"description", .text, false, .null, none, false⟩]

/-- The versions that were reached. -/
def schemaMigrations : Schema where
  name := "schema_migrations"
  key := "version"
  columns := [
    ⟨"name", .text, true, .null, none, false⟩,
    ⟨"applied_at", .integer, true, .null, none, false⟩,
    ⟨"checksum", .text, true, .null, none, false⟩,
    ⟨"execution_time_ms", .integer, false, .null, none, false⟩,
    ⟨"success", .integer, true, .integer 1, none, false⟩]

def authors : Schema where
  name := "authors"
  key := "id"
  columns := [
    ⟨"name", .text, true, .null, some (.lengthBetween 1 200), false⟩,
    ⟨"country", .text, false, .null, some (.nullOrLength 2), false⟩,
    ⟨"bio", .text, false, .null, none, false⟩,
    ⟨"active", .integer, true, .integer 1, some .truthValue, false⟩,
    ⟨"born_at", .text, false, .null, none, false⟩,
    ⟨"created_at", .text, true, .null, none, false⟩]

/-- Books, which go with their author. -/
def books : Schema where
  name := "books"
  key := "id"
  columns := [
    ⟨"author_id", .integer, true, .null, none, false⟩,
    ⟨"title", .text, true, .null, some (.lengthAtLeast 1), false⟩,
    ⟨"genre", .text, false, .null, none, false⟩,
    ⟨"price", .real, true, .null, some .notNegative, false⟩,
    ⟨"pages", .integer, false, .null, some .nullOrPositive, false⟩,
    ⟨"in_stock", .integer, true, .integer 1, some .truthValue, false⟩,
    ⟨"isbn", .text, false, .null, none, true⟩,
    ⟨"published_at", .text, true, .null, none, false⟩]
  references := [⟨"author_id", "authors"⟩]

/-- Reviews, which go with their book. -/
def reviews : Schema where
  name := "reviews"
  key := "id"
  columns := [
    ⟨"book_id", .integer, true, .null, none, false⟩,
    ⟨"reviewer", .text, true, .null, none, false⟩,
    ⟨"rating", .integer, true, .null, some (.between 1 5), false⟩,
    ⟨"body", .text, false, .null, none, false⟩,
    ⟨"created_at", .text, true, .null, none, false⟩]
  references := [⟨"book_id", "books"⟩]

/-- The tables of the first version, with the indexes made on them. -/
def initial : List (Schema × List Text) := [
  (schemaVersion, []),
  (schemaMigrations, []),
  (authors, ["idx_authors_country"]),
  (books, ["idx_books_author", "idx_books_genre", "idx_books_published"]),
  (reviews, ["idx_reviews_book"])]

end CatalogListing.Tables
