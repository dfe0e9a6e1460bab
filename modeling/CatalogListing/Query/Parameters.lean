/-
# Query.Parameters -- what one list request asks for

Request pairs in the order they came become the parameters of a listing: page,
order, associations to attach, and every other pair a filter.

* The first `limit` and the first `offset` count.
* Every `order_by` adds a term, every `populate` adds names.
* Every other key is a filter key.  Filters stand in the order of their keys, and the
  values of a key in the order they came.
-/
import CatalogListing.Query.NameList
import CatalogListing.Query.Page
import CatalogListing.Query.Order
import CatalogListing.Filter.Clause
import CatalogListing.Text.Uppercase

namespace CatalogListing

set_option autoImplicit false

/-! ## Entries in the order of their keys -/

/-- Entries in ascending order of their keys, each key once. -/
abbrev Keyed (α : Type) := List (Text × α)

namespace Keyed

variable {α : Type}

/-- The entry of `key` changed by `change`, which sees `none` when there is none. -/
def alter (key : Text) (change : Option α → α) : Keyed α → Keyed α
  | [] => [(key, change none)]
  | (k, value) :: rest =>
      if k = key then (k, change (some value)) :: rest
      else if Text.precedes key k then (key, change none) :: (k, value) :: rest
      else (k, value) :: alter key change rest

/-- The entry of `key` set to `value`. -/
def insert (key : Text) (value : α) (entries : Keyed α) : Keyed α :=
  alter key (fun _ => value) entries

/-- The value of `key`. -/
def find? (key : Text) (entries : Keyed α) : Option α :=
  entries.lookup key

/-- The entries without the one of `key`. -/
def erase (key : Text) (entries : Keyed α) : Keyed α :=
  entries.filter fun entry => entry.1 != key

end Keyed

/-! ## Parameters -/

/-- The names of the request keys that are not filters. -/
def limitKey : Text := "limit"
def offsetKey : Text := "offset"
def orderKey : Text := "order_by"
def populateKey : Text := "populate"

/-- The keys that are never filters. -/
def reservedKeys : List Text :=
  [limitKey, offsetKey, orderKey, populateKey]

/-- SQL that a service adds around a listing; a request never sets it. -/
structure Passthrough where
  select : Option Text := none
  joins : Option Text := none
  group : Option Text := none
  having : Option Text := none
  deriving DecidableEq, Repr

/-- What one list request asks for. -/
structure Parameters where
  limit : Nat
  offset : Nat
  order : List OrderTerm
  passthrough : Passthrough
  /-- The names of associations to attach, capitalized, each once. -/
  preload : List Text
  /-- Clauses that no filter expresses, with the parameters of their placeholders. -/
  custom : Keyed (List Sql.Parameter)
  filters : Keyed (List Text)
  deriving DecidableEq, Repr

/-- One key of a request with its value. -/
abbrev Pair := Text × Text

namespace Parameters

/-- The values of a key, in order. -/
def valuesOf (key : Text) (pairs : List Pair) : List Text :=
  pairs.filterMap fun pair => if pair.1 = key then some pair.2 else none

/-- A name put behind the others unless it is empty or among them. -/
def withName (names : List Text) (name : Text) : List Text :=
  let name := Text.capitalize (Text.trim name)
  if name.isEmpty || names.contains name then names else names ++ [name]

/-- A filter value put behind the others of its key. -/
def withFilter (filters : Keyed (List Text)) (pair : Pair) : Keyed (List Text) :=
  filters.alter pair.1 fun values => values.getD [] ++ [pair.2]

/-- The parameters that the pairs of a request ask for. -/
def ofPairs (pairs : List Pair) (bounds : PageBounds) : Parameters where
  limit := bounds.limit (valuesOf limitKey pairs).head?
  offset := PageBounds.offset (valuesOf offsetKey pairs).head?
  order := (valuesOf orderKey pairs).filterMap OrderTerm.ofText?
  passthrough := {}
  preload := ((valuesOf populateKey pairs).flatMap NameList.ofText).foldl withName []
  custom := []
  filters := (pairs.filter fun pair => !reservedKeys.contains pair.1).foldl withFilter []

/-- The parameters with one more association to attach. -/
def addPreload (parameters : Parameters) (name : Text) : Parameters :=
  { parameters with preload := withName parameters.preload name }

/-- The parameters with a clause; its parameters replace those it had before. -/
def addCustom (parameters : Parameters) (clause : Text) (values : List Sql.Parameter) :
    Parameters :=
  { parameters with custom := parameters.custom.insert clause values }

/-- The values of a filter key, and the parameters without them. -/
def takeFilter (parameters : Parameters) (key : Text) : Option (List Text) × Parameters :=
  (parameters.filters.find? key, { parameters with filters := parameters.filters.erase key })

/-- The order terms as they were asked for. -/
def orderClause? (parameters : Parameters) : Option Text :=
  if parameters.order.isEmpty then none
  else some (List.intercalate [','] (parameters.order.map OrderTerm.clause))

end Parameters

end CatalogListing
