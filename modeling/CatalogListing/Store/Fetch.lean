/-
# Store.Fetch -- the rows of a listing

The page of rows that a selection wants, the count of all of them, and the associated
rows that are attached to the page.

An association is fetched once for the whole page: the keys that the rows of the page
refer to are collected, the rows of the other table with one of these keys are fetched,
and each row of the page gets those whose key has the text of its own.
-/
import CatalogListing.Store.Limits

namespace CatalogListing

set_option autoImplicit false

/-- A record of an answer: fields in order. -/
abbrev Record := List (Text × Json)

/-- A row as a record. -/
def Row.record (row : Row) (schema : Schema) : Record :=
  (row.values schema).map fun cell => (cell.1, cell.2.toJson)

/-! ## Order -/

/-- One row may stand before another, by the first term on which they differ. -/
def standsBefore (schema : Schema) : List OrderTerm → Row → Row → Bool
  | [], _, _ => true
  | term :: rest, x, y =>
      let first := (if term.descending then y else x).value schema term.field
      let second := (if term.descending then x else y).value schema term.field
      first.precedes second || (!second.precedes first && standsBefore schema rest x y)

namespace Selection

/-- The rows of a table that the selection wants. -/
def matching (selection : Selection) (db : Database) (table : Table) : List Row :=
  table.rows.filter (selection.wants db table.schema)

/-- Those rows in the order of the selection; rows that tie are left as they come by. -/
def sorted (selection : Selection) (scan : Scan) (db : Database) (table : Table) : List Row :=
  ((selection.matching db table).mergeSort (scan.before selection.ungrouped table)).mergeSort
    (standsBefore table.schema selection.order)

/-- The page of those rows. -/
def page (selection : Selection) (scan : Scan) (db : Database) (table : Table) : List Row :=
  ((selection.sorted scan db table).drop selection.offset).take selection.limit

end Selection

/-! ## Associations -/

namespace Association

/-- The text that keys are told apart by: the key as it is written in an answer. -/
def keyText (key : Scalar) : Text :=
  key.toJson.print

/-- The distinct keys that rows refer to. -/
def keysOf (association : Association) (schema : Schema) (rows : List Row) : List Scalar :=
  ((rows.map fun row => row.value schema association.localKey).filter
    fun key => !key.isNull).eraseDupsBy fun key other => keyText key == keyText other

/-- The rows of the other table with one of the keys. -/
def related (association : Association) (table : Table) (keys : List Scalar) : List Row :=
  table.rows.filter fun row =>
    let remote := table.value row association.remoteKey
    keys.any fun key =>
      !remote.isNull && remote.same (key.operandFor (table.schema.affinityOf association.remoteKey))

/-- What is attached to a row with a key, from the related rows. -/
def attachment (association : Association) (table : Table) (related : List Row) (key : Scalar) :
    Json :=
  let matching := related.filter fun row =>
    keyText (table.value row association.remoteKey) == keyText key
  let records := matching.map fun row => Json.object (row.record table.schema)
  match association.cardinality with
  | .hasMany => .array records
  | .belongsTo => records.headD .null

/-- The statement for the related rows has one argument for each key. -/
def requireKeys (keys : List Scalar) : Except Fault Unit :=
  if maxArguments < keys.length then Database.refuse 1 "too many SQL variables" else .ok ()

/-- What is attached to each of the rows, in their order.  No statement is needed when
they refer to nothing. -/
def attachments (association : Association) (db : Database) (schema : Schema) (rows : List Row) :
    Except Fault (List Json) :=
  match association.keysOf schema rows with
  | [] => .ok (rows.map fun _ => match association.cardinality with
      | .hasMany => .array []
      | .belongsTo => .null)
  | keys => do
      requireKeys keys
      let table ← db.requireTable association.table
      let related := association.related table keys
      return rows.map fun row =>
        association.attachment table related (row.value schema association.localKey)

end Association

/-! ## Listings -/

/-- The answer of the database to a listing: a page of records and the count of all
matching rows. -/
structure Listed where
  rows : List Record
  total : Nat

/-- The records with an association attached. -/
def attach (db : Database) (schema : Schema) (rows : List Row) (association : Association)
    (records : List Record) : Except Fault (List Record) := do
  let values ← association.attachments db schema rows
  return List.zipWith (fun record value => record ++ [(association.name, value)]) records values

namespace Database

/-- The records of a page with the associations of some names attached, in the order of
the names; names without an association are passed over. -/
def attachAll (db : Database) (resource : Resource) (schema : Schema) (rows : List Row)
    (names : List Text) : Except Fault (List Record) :=
  (names.filterMap resource.association?).foldlM
    (fun records association => attach db schema rows association records)
    (rows.map fun row => row.record schema)

/-- The listing of a selection with associations of some names. -/
def fetch (db : Database) (scan : Scan) (selection : Selection) (preload : List Text) :
    Except Fault Listed := do
  selection.requireSize
  let table ← db.requireTable selection.resource.table
  selection.requireIndexes db
  selection.requireOrder
  selection.requireTests scan db table
  let rows := selection.page scan db table
  let records ← db.attachAll selection.resource table.schema rows preload
  return ⟨records, (selection.matching db table).length⟩

end Database

end CatalogListing
