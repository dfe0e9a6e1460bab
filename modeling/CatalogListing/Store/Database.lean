/-
# Store.Database -- tables, references and the full-text index

A database is a collection of tables and, once it is made, the full-text index over
book titles.  Every statement is a function from a database to the next one or a
fault; a statement that fails leaves no trace, because the next database is never made.

* `insert`, `update` and `delete` check what the schema requires: values that must not
  be null, checks, unique keys and columns, and references, in this order.
* Deleting a row deletes the rows that refer to it.
* A watched table tells the index of inserted and deleted rows and of changed titles.
-/
import CatalogListing.Store.Search
import CatalogListing.Store.Table

namespace CatalogListing

set_option autoImplicit false

/-- The tables of a database and its full-text index. -/
structure Database where
  tables : List Table := []
  index : Option Search.Index := none
  deriving DecidableEq, Repr

namespace Database

/-! ## Names -/

/-- The name of the full-text index. -/
def indexName : Text := "books_fts"

/-- The column that the full-text index covers. -/
def indexedColumn : Text := "title"

/-- The table of a name. -/
def table? (db : Database) (name : Text) : Option Table :=
  db.tables.find? fun table => table.schema.name == name

def hasTable (db : Database) (name : Text) : Bool :=
  (db.table? name).isSome

/-- The database with a table in the place of the one of its name. -/
def withTable (db : Database) (table : Table) : Database :=
  { db with tables := db.tables.map fun other =>
      if other.schema.name = table.schema.name then table else other }

/-- The database without a table. -/
def withoutTable (db : Database) (name : Text) : Database :=
  { db with tables := db.tables.filter fun table => table.schema.name != name }

/-- A fault of a statement that the database refuses. -/
def refuse {α : Type} (code : Nat) (reason : Text) : Except Fault α :=
  .error (.rejected code reason)

/-- The table of a name, or the report that there is none. -/
def requireTable (db : Database) (name : Text) : Except Fault Table :=
  match db.table? name with
  | some table => .ok table
  | none => refuse 1 ("no such table: " ++ name)

/-- A name that a reference or an index relies on must exist. -/
def requirePresent (present : Bool) (name : Text) : Except Fault Unit :=
  if present then .ok () else refuse 1 ("no such table: main." ++ name)

/-- The tables that references lead to exist. -/
def requireParents (db : Database) (references : List Reference) : Except Fault Unit :=
  references.forM fun reference => requirePresent (db.hasTable reference.table) reference.table

/-- The full-text index exists if the table is watched. -/
def requireIndex (db : Database) (table : Table) : Except Fault Unit :=
  requirePresent (!table.watched || db.index.isSome) indexName

/-! ## The index -/

/-- The indexed text of a row. -/
def indexedText (row : Row) : Text :=
  (row.cell indexedColumn).textForm?.getD []

/-- The index told of a row that was added. -/
def indexAdded (db : Database) (table : Table) (row : Row) : Database :=
  if table.watched then
    { db with index := db.index.map fun index => Search.add index row.key (indexedText row) }
  else db

/-- The index told of a row that was removed. -/
def indexRemoved (db : Database) (table : Table) (row : Row) : Database :=
  if table.watched then
    { db with index := db.index.map fun index => Search.remove index row.key (indexedText row) }
  else db

/-! ## Requirements -/

/-- The report of a constraint on a column. -/
def onColumn (table : Table) (column : Text) : Text :=
  table.schema.name ++ '.' :: column

/-- Columns that must not be null are not. -/
def requireValues (table : Table) (row : Row) : Except Fault Unit :=
  table.schema.columns.forM fun column =>
    if column.required && (row.cell column.name).isNull then
      refuse 1299 ("NOT NULL constraint failed: " ++ onColumn table column.name)
    else .ok ()

/-- A value satisfies a check on its column. -/
def requireCheck (check : Option Check) (column : Text) (value : Scalar) : Except Fault Unit :=
  match check with
  | some check =>
      if check.admits value then .ok ()
      else refuse 275 ("CHECK constraint failed: " ++ check.text column)
  | none => .ok ()

/-- All checks of the table are satisfied. -/
def requireChecks (table : Table) (row : Row) : Except Fault Unit := do
  requireCheck table.schema.keyCheck table.schema.key (.integer row.key)
  table.schema.columns.forM fun column =>
    requireCheck column.check column.name (row.cell column.name)

/-- No row of the table has the key. -/
def requireFreshKey (table : Table) (key : Int) : Except Fault Unit :=
  if table.hasKey key then
    refuse 1555 ("UNIQUE constraint failed: " ++ onColumn table table.schema.key)
  else .ok ()

/-- No row of the table has the same value in a unique column; nulls are all different. -/
def requireUnique (table : Table) (row : Row) : Except Fault Unit :=
  table.schema.columns.forM fun column =>
    let value := row.cell column.name
    if column.unique && !value.isNull &&
        table.rows.any fun other => (other.cell column.name).same value then
      refuse 2067 ("UNIQUE constraint failed: " ++ onColumn table column.name)
    else .ok ()

/-- The value of a reference is null or a key of the table it leads to. -/
def refers (db : Database) (reference : Reference) (row : Row) : Bool :=
  match row.cell reference.column with
  | .null => true
  | .integer n => ((db.table? reference.table).map fun table => table.hasKey n).getD false
  | _ => false

/-- The report of a broken reference. -/
def brokenReference {α : Type} : Except Fault α :=
  refuse 787 "FOREIGN KEY constraint failed"

/-- All given references lead to a row. -/
def requireReferences (db : Database) (references : List Reference) (row : Row) :
    Except Fault Unit :=
  if references.all fun reference => db.refers reference row then .ok () else brokenReference

/-! ## Inserting -/

/-- The key that a given value is; null asks for the next one. -/
def keyOf (table : Table) : Scalar → Except Fault Int
  | .null => .ok table.nextKey
  | value =>
      match value.store .integer with
      | .integer n => .ok n
      | _ => refuse 20 "datatype mismatch"

/-- The value of a column among given ones, as it is stored. -/
def cellOf (given : List (Text × Scalar)) (column : Column) : Text × Scalar :=
  (column.name, match given.lookup column.name with
    | some value => value.store column.affinity
    | none => column.default)

/-- A row with the given values is inserted. -/
def insert (db : Database) (name : Text) (given : List (Text × Scalar)) :
    Except Fault Database := do
  let table ← db.requireTable name
  given.forM fun cell =>
    if table.schema.hasColumn cell.1 then .ok ()
    else refuse 1 ("table " ++ name ++ " has no column named " ++ cell.1)
  db.requireParents table.schema.references
  db.requireIndex table
  let key ← keyOf table ((given.lookup table.schema.key).getD .null)
  let row : Row := ⟨key, table.schema.columns.map (cellOf given)⟩
  requireValues table row
  requireChecks table row
  requireFreshKey table key
  requireUnique table row
  let db := (db.withTable (table.add row)).indexAdded table row
  db.requireReferences table.schema.references row
  return db

/-! ## Deleting -/

/-- The tables with a reference to a table, and the column of that reference. -/
def children (db : Database) (name : Text) : List (Table × Text) :=
  db.tables.flatMap fun table =>
    (table.schema.references.filter fun reference => reference.table == name).map
      fun reference => (table, reference.column)

/-- The rows of some keys are removed from a table, and the index is told. -/
def removeRows (db : Database) (table : Table) (keys : List Int) : Database :=
  (table.rows.filter fun row => keys.contains row.key).foldl
    (fun db row => db.indexRemoved table row) (db.withTable (table.without keys))

/-- The keys of the rows of a table that refer to one of some keys. -/
def referring (table : Table) (column : Text) (keys : List Int) : List Int :=
  (table.rows.filter fun row => keys.any fun key => row.cell column == .integer key).map (·.key)

/-- The rows of some keys go, and then the rows that refer to them.  The fuel bounds
the length of a chain of references. -/
def cascade : Nat → Database → Text → List Int → Database
  | 0, db, _, _ => db
  | fuel + 1, db, name, keys =>
      match db.table? name with
      | none => db
      | some table =>
          (db.children name).foldl
            (fun db child =>
              cascade fuel db child.1.schema.name (referring child.1 child.2 keys))
            (db.removeRows table keys)

/-- The names that deleting from the children of a table relies on exist. -/
def requireChildren : Nat → Database → Text → Except Fault Unit
  | 0, _, _ => .ok ()
  | fuel + 1, db, name =>
      (db.children name).forM fun child => do
        requireChildren fuel db child.1.schema.name
        db.requireIndex child.1

/-- The key of the table is the column `id`, by which single rows are addressed. -/
def requireId (table : Table) : Except Fault Unit :=
  if table.schema.key = ("id" : Text) then .ok () else refuse 1 "no such column: id"

/-- The row of a key is deleted with the rows that refer to it; with the count of the
rows of this key. -/
def delete (db : Database) (name : Text) (key : Int) : Except Fault (Database × Nat) := do
  let table ← db.requireTable name
  requireId table
  db.requireParents table.schema.references
  requireChildren db.tables.length db name
  db.requireIndex table
  if table.hasKey key then return (cascade db.tables.length db name [key], 1)
  else return (db, 0)

/-- A watched table has lost rows from one database to the next. -/
def losesWatched (before after : Database) : Bool :=
  before.tables.any fun table =>
    table.watched &&
      table.rows.any fun row => !((after.table? table.schema.name).map (·.hasKey row.key)).getD true

/-- A table is dropped after its rows have been deleted, if other tables refer to it.
The index is not told of its own rows.  When it has to be told of rows that go with
them, it is still being read as the table should go, which is then refused. -/
def drop (db : Database) (name : Text) : Except Fault Database := do
  if name = indexName then
    if db.index.isSome then return { db with index := none }
    else refuse 1 ("no such table: " ++ name)
  else
    let table ← db.requireTable name
    requireChildren db.tables.length db name
    let keys := table.rows.map (·.key)
    let unwatched := db.withTable { table with watched := false }
    let emptied := cascade db.tables.length unwatched name keys
    if unwatched.losesWatched emptied then refuse 6 "database table is locked"
    else return emptied.withoutTable name

/-! ## Updating -/

/-- The key of a row after an update. -/
def updatedKey (table : Table) (row : Row) (changes : List (Text × Scalar)) : Except Fault Int :=
  match changes.lookup table.schema.key with
  | none => .ok row.key
  | some value =>
      match value.store .integer with
      | .integer n => .ok n
      | _ => refuse 20 "datatype mismatch"

/-- The cells of a row after an update. -/
def updatedCells (table : Table) (row : Row) (changes : List (Text × Scalar)) :
    List (Text × Scalar) :=
  table.schema.columns.map fun column =>
    (column.name, match changes.lookup column.name with
      | some value => value.store column.affinity
      | none => row.cell column.name)

/-- No row refers to a key. -/
def requireUnreferred (db : Database) (name : Text) (key : Int) : Except Fault Unit :=
  if (db.children name).all fun child => (referring child.1 child.2 [key]).isEmpty then .ok ()
  else brokenReference

/-- A row is replaced by an updated one; the index is told only when its column is
among the changed ones. -/
def replaceRow (db : Database) (table : Table) (old new : Row) (told : Bool) : Database :=
  let replaced := db.withTable ((table.without [old.key]).add new)
  if told then (replaced.indexRemoved table old).indexAdded table new else replaced

/-- The columns of the row of a key are changed; with the count of rows of this key. -/
def update (db : Database) (name : Text) (key : Int) (changes : List (Text × Scalar)) :
    Except Fault (Database × Nat) := do
  let table ← db.requireTable name
  changes.forM fun change =>
    if table.schema.hasColumn change.1 then .ok ()
    else refuse 1 ("no such column: " ++ change.1)
  requireId table
  let touched := table.schema.references.filter fun reference =>
    changes.any fun change => change.1 == reference.column
  let told := changes.any fun change => change.1 == indexedColumn
  db.requireParents touched
  if told then db.requireIndex table
  match table.row? key with
  | none => return (db, 0)
  | some old =>
      let newKey ← updatedKey table old changes
      let new : Row := ⟨newKey, updatedCells table old changes⟩
      let others := table.without [old.key]
      requireValues table new
      requireChecks table new
      requireFreshKey others newKey
      requireUnique others new
      let db := db.replaceRow table old new told
      db.requireReferences touched new
      if newKey ≠ old.key then db.requireUnreferred name old.key
      return (db, 1)

end Database

end CatalogListing
