/-
# Catalog -- authors, books and reviews

The resources of the catalog.  Every column may be filtered by; ordering is limited to
the sortable ones.
-/
import CatalogListing.Resource

namespace CatalogListing.Catalog

set_option autoImplicit false

def authorColumns : List Text :=
  ["id", "name", "country", "bio", "active", "born_at", "created_at"]

def bookColumns : List Text :=
  ["id", "author_id", "title", "genre", "price", "pages", "in_stock", "isbn", "published_at"]

def reviewColumns : List Text :=
  ["id", "book_id", "reviewer", "rating", "body", "created_at"]

/-- Authors, who have books. -/
def authors : Resource where
  name := "authors"
  table := "authors"
  primaryKey := "id"
  columns := authorColumns
  filterable := authorColumns
  sortable := ["id", "name", "country", "born_at", "created_at"]
  fullText := none
  associations := [⟨"Books", "books", .hasMany, "id", "author_id"⟩]

/-- Books, which belong to an author and have reviews; their titles are indexed. -/
def books : Resource where
  name := "books"
  table := "books"
  primaryKey := "id"
  columns := bookColumns
  filterable := bookColumns
  sortable := ["id", "title", "genre", "price", "pages", "published_at"]
  fullText := some ⟨"books_fts", ["title"]⟩
  associations := [⟨"Author", "authors", .belongsTo, "author_id", "id"⟩,
    ⟨"Reviews", "reviews", .hasMany, "id", "book_id"⟩]

/-- Reviews, which belong to a book. -/
def reviews : Resource where
  name := "reviews"
  table := "reviews"
  primaryKey := "id"
  columns := reviewColumns
  filterable := reviewColumns
  sortable := ["id", "rating", "reviewer", "created_at"]
  fullText := none
  associations := [⟨"Book", "books", .belongsTo, "book_id", "id"⟩]

/-- Every listable resource. -/
def resources : List Resource :=
  [authors, books, reviews]

/-- The resource of a name. -/
def find? (name : Text) : Option Resource :=
  resources.find? fun resource => resource.name == name

end CatalogListing.Catalog
