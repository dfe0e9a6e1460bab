/-
# Resource -- listable tables

A resource is a table under a public name, with the columns that requests may filter
and order by, the full-text index over some of its columns, and the associations that
requests may attach to its rows.
-/
import CatalogListing.Text.Basic

namespace CatalogListing

set_option autoImplicit false

/-- How many related rows an association has. -/
inductive Cardinality where
  | hasMany
  | belongsTo
  deriving DecidableEq, Repr

/-- Rows of another table whose `remoteKey` equals the `localKey` of a row. -/
structure Association where
  name : Text
  table : Text
  cardinality : Cardinality
  localKey : Text
  remoteKey : Text
  deriving DecidableEq, Repr

/-- A full-text index over some columns of a table, keyed by its primary key. -/
structure FullTextIndex where
  table : Text
  columns : List Text
  deriving DecidableEq, Repr

/-- A listable table. -/
structure Resource where
  name : Text
  table : Text
  primaryKey : Text
  columns : List Text
  filterable : List Text
  sortable : List Text
  fullText : Option FullTextIndex
  associations : List Association
  deriving DecidableEq, Repr

namespace Resource

def hasColumn (resource : Resource) (column : Text) : Bool :=
  resource.columns.contains column

def isSortable (resource : Resource) (field : Text) : Bool :=
  resource.sortable.contains field

/-- The full-text index that covers a column. -/
def indexOf? (resource : Resource) (column : Text) : Option FullTextIndex :=
  resource.fullText.filter fun index => index.columns.contains column

/-- The association of a name. -/
def association? (resource : Resource) (name : Text) : Option Association :=
  resource.associations.find? fun association => association.name == name

end Resource

end CatalogListing
