/-
# Store.Archive -- databases as text

A database is kept in a file as JSON: its tables with their rows, and the postings of
the full-text index.  A table is kept by its name, under which its shape is known, and
a floating-point number by its sign, significand and exponent, so that nothing is lost.
-/
import CatalogListing.Json.Printer
import CatalogListing.Store.Tables

namespace CatalogListing.Archive

set_option autoImplicit false

/-! ## Writing -/

/-- A value of a column. -/
def ofScalar : Scalar → Json
  | .null => .null
  | .integer n => .integer n
  | .real (.finite negative significand exponent) =>
      .array [.boolean negative, .integer significand, .integer exponent]
  | .real (.infinite negative) => .array [.boolean negative]
  | .text t => .text t
  | .blob bytes => .object [("blob", .text (Utf8.toHex bytes))]

/-- A row: its key and the values of its columns in order. -/
def ofRow (row : Row) : Json :=
  .array (.integer row.key :: row.cells.map fun cell => ofScalar cell.2)

def ofTable (table : Table) : Json :=
  .object [("name", .text table.schema.name), ("indexes", .array (table.indexes.map .text)),
    ("watched", .boolean table.watched), ("rows", .array (table.rows.map ofRow))]

def ofPosting (posting : Search.Posting) : Json :=
  .array [.integer posting.row, .text (Utf8.toHex posting.word), .integer posting.place]

/-- A database. -/
def ofDatabase (db : Database) : Json :=
  .object [("tables", .array (db.tables.map ofTable)),
    ("index", match db.index with
      | some index => .array (index.map ofPosting)
      | none => .null)]

/-- The text of a database. -/
def write (db : Database) : Text :=
  (ofDatabase db).print

/-! ## Reading -/

def toScalar? : Json → Option Scalar
  | .null => some .null
  | .integer n => some (.integer n)
  | .array [.boolean negative, .integer (.ofNat significand), .integer exponent] =>
      some (.real (.finite negative significand exponent))
  | .array [.boolean negative] => some (.real (.infinite negative))
  | .text t => some (.text t)
  | .object [(_, .text hex)] => (Utf8.ofHex? hex).map .blob
  | _ => none

/-- A row of a table of a given shape. -/
def toRow? (schema : Schema) : Json → Option Row
  | .array (.integer key :: values) => do
      let values ← values.mapM toScalar?
      if values.length = schema.columns.length then
        return ⟨key, (schema.columns.map (·.name)).zip values⟩
      else none
  | _ => none

def toText? : Json → Option Text
  | .text t => some t
  | _ => none

/-- The items of a field that is an array. -/
def items? (json : Json) (name : Text) : Option (List Json) :=
  match json.field? name with
  | some (.array items) => some items
  | _ => none

def toTable? (json : Json) : Option Table := do
  let name ← (json.field? "name").bind toText?
  let (schema, _) ← Tables.initial.find? fun table => table.1.name == name
  let watched ← json.field? "watched"
  let indexes ← (← items? json "indexes").mapM toText?
  let rows ← (← items? json "rows").mapM (toRow? schema)
  match watched with
  | .boolean watched => return ⟨schema, rows, indexes, watched⟩
  | _ => none

def toPosting? : Json → Option Search.Posting
  | .array [.integer row, .text hex, .integer (.ofNat place)] =>
      (Utf8.ofHex? hex).map fun word => ⟨row, word, place⟩
  | _ => none

/-- The postings of an index, which need not be there. -/
def toIndex? : Json → Option (Option Search.Index)
  | .null => some none
  | .array items => (items.mapM toPosting?).map some
  | _ => none

/-- The database of a JSON value. -/
def toDatabase? (json : Json) : Option Database := do
  let tables ← (← items? json "tables").mapM toTable?
  let index ← (← json.field? "index") |> toIndex?
  return ⟨tables, index⟩

/-- The database that a text holds. -/
def read? (text : Text) : Option Database :=
  (Json.ofText? text).bind toDatabase?

end CatalogListing.Archive
