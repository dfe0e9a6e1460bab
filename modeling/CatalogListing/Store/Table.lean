/-
# Store.Table -- rows under their keys

A table holds its rows in ascending order of their keys.  A row has a value for each
column; a column that a row lacks reads as null.
-/
import CatalogListing.Store.Schema

namespace CatalogListing

set_option autoImplicit false

/-- A row: its key and the values of the other columns. -/
structure Row where
  key : Int
  cells : List (Text × Scalar)
  deriving DecidableEq, Repr

/-- A table with its rows, the indexes made on it, and whether a full-text index is
told of its changes. -/
structure Table where
  schema : Schema
  rows : List Row := []
  indexes : List Text := []
  watched : Bool := false
  deriving DecidableEq, Repr

namespace Row

/-- The value of a column that is not the key. -/
def cell (row : Row) (column : Text) : Scalar :=
  (row.cells.lookup column).getD .null

/-- The value of a column. -/
def value (row : Row) (schema : Schema) (column : Text) : Scalar :=
  if column = schema.key then .integer row.key else row.cell column

/-- The columns with their values, in the order of the schema. -/
def values (row : Row) (schema : Schema) : List (Text × Scalar) :=
  schema.columnNames.map fun column => (column, row.value schema column)

end Row

namespace Table

/-- The value of a column of a row. -/
def value (table : Table) (row : Row) (column : Text) : Scalar :=
  row.value table.schema column

/-- The row of a key. -/
def row? (table : Table) (key : Int) : Option Row :=
  table.rows.find? fun row => row.key == key

def hasKey (table : Table) (key : Int) : Bool :=
  table.rows.any fun row => row.key == key

/-- Rows with one more, in ascending order of keys. -/
def insertRow (row : Row) : List Row → List Row
  | [] => [row]
  | other :: rest => if row.key < other.key then row :: other :: rest else other :: insertRow row rest

/-- The table with one more row. -/
def add (table : Table) (row : Row) : Table :=
  { table with rows := insertRow row table.rows }

/-- The table without the rows of some keys. -/
def without (table : Table) (keys : List Int) : Table :=
  { table with rows := table.rows.filter fun row => !keys.contains row.key }

/-- The largest key. -/
def maxKey : Int := 9223372036854775807

/-- The least positive key that no row has. -/
def freeKey (table : Table) : Int :=
  (((List.range (table.rows.length + 1)).map fun (n : Nat) => (n : Int) + 1).find?
    fun key => !table.hasKey key).getD 1

/-- The key that a row gets when none is given: the one behind the last, or a free one
when there is none behind it. -/
def nextKey (table : Table) : Int :=
  match table.rows.getLast? with
  | some row => if row.key < maxKey then row.key + 1 else table.freeKey
  | none => 1

end Table

end CatalogListing
