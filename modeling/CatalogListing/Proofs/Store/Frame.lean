/-
# Proofs.Store.Frame -- the tables behind a statement

A statement that completes has put one table in the place of the one of its name and left
the others: what an insertion and an update did is told table by table
(`Inserted.table?_self`, `Inserted.table?_of_ne`, `Replaced.table?_self`,
`Replaced.table?_of_ne`).  No statement changes the schema of a table.
-/
import CatalogListing.Proofs.Store.Sync

namespace CatalogListing

set_option autoImplicit false

/-! ## Rows that are found again -/

namespace Table

variable {table : Table} {row : Row}

/-- The schema and the rows of a table, without the indexes made on it. -/
def content (table : Table) : Schema × List Row :=
  (table.schema, table.rows)

theorem row?_add_self (fresh : table.hasKey row.key = false) :
    (table.add row).row? row.key = some row := by
  have apart : ∀ other ∈ table.rows, other.key ≠ row.key := by simpa [hasKey] using fresh
  unfold row? add
  generalize table.rows = rows at apart
  induction rows with
  | nil => simp [insertRow]
  | cons first rest ih =>
      obtain ⟨here, later⟩ := List.forall_mem_cons.1 apart
      rw [insertRow]
      split
      · simp
      · simp [here, ih later]

theorem hasKey_add {key : Int} :
    (table.add row).hasKey key = (row.key == key || table.hasKey key) := by
  have perm := insertRow_perm row table.rows
  rw [Bool.eq_iff_iff]
  simp [hasKey, add, perm.mem_iff]

end Table

namespace Database

variable {db next : Database} {name : Text} {table : Table} {row : Row}

/-- The schema and the rows of the table of a name. -/
def content? (db : Database) (name : Text) : Option (Schema × List Row) :=
  (db.table? name).map Table.content

/-- The schema of the table of a name. -/
def schema? (db : Database) (name : Text) : Option Schema :=
  (db.table? name).map (·.schema)

/-- A table is found in the place of the one whose schema it has. -/
theorem table?_withTable (found : db.table? name = some table) (other : Table)
    (same : other.schema = table.schema) : (db.withTable other).table? name = some other := by
  have named : other.schema.name = name := by rw [same, name_of_table? found]
  subst named
  exact table?_withTable_self found

theorem content?_withTable (found : db.table? name = some table) (other : Table)
    (same : other.content = table.content) (any : Text) :
    (db.withTable other).content? any = db.content? any := by
  have schemas : other.schema = table.schema := congrArg Prod.fst same
  unfold content?
  by_cases here : any = name
  · rw [here, table?_withTable found other schemas, found, Option.map_some, Option.map_some, same]
  · have named : other.schema.name = name := by rw [schemas, name_of_table? found]
    rw [table?_withTable_of_ne db other (named.symm ▸ here)]

theorem schema?_eq_content? (db : Database) (name : Text) :
    db.schema? name = (db.content? name).map Prod.fst := by
  rw [schema?, content?, Option.map_map]
  rfl

theorem schema?_of_content? (same : next.content? name = db.content? name) :
    next.schema? name = db.schema? name := by
  rw [schema?_eq_content?, schema?_eq_content?, same]

section

variable {given : List (Text × Scalar)}

theorem Inserted.table?_self (done : Inserted db name given next table row) :
    next.table? name = some (table.add row) := by
  rw [done.result, table?_of_tables (tables_indexAdded _ _ _)]
  exact table?_withTable done.found _ rfl

theorem Inserted.table?_of_ne {other : Text} (done : Inserted db name given next table row)
    (apart : other ≠ name) : next.table? other = db.table? other := by
  have named := name_of_table? done.found
  rw [done.result, table?_of_tables (tables_indexAdded _ _ _)]
  exact table?_withTable_of_ne db (table.add row) (named ▸ apart)

theorem Inserted.schema? (done : Inserted db name given next table row) (other : Text) :
    next.schema? other = db.schema? other := by
  by_cases same : other = name
  · rw [same, Database.schema?, Database.schema?, done.table?_self, done.found]
    rfl
  · rw [Database.schema?, Database.schema?, done.table?_of_ne same]

end

section

variable {key : Int} {changes : List (Text × Scalar)} {old new : Row}

theorem tables_replaceRow (told : Bool) :
    (db.replaceRow table old new told).tables =
      (db.withTable ((table.without [old.key]).add new)).tables := by
  unfold replaceRow
  split
  · rw [tables_indexAdded, tables_indexRemoved]
  · rfl

theorem Replaced.table?_self (done : Replaced db name key changes next table old new) :
    next.table? name = some ((table.without [old.key]).add new) := by
  rw [done.result, table?_of_tables (tables_replaceRow _)]
  exact table?_withTable done.found _ rfl

theorem Replaced.table?_of_ne {other : Text}
    (done : Replaced db name key changes next table old new) (apart : other ≠ name) :
    next.table? other = db.table? other := by
  have named := name_of_table? done.found
  rw [done.result, table?_of_tables (tables_replaceRow _)]
  exact table?_withTable_of_ne db ((table.without [old.key]).add new) (named ▸ apart)

theorem Updated.schema? (done : Updated db name key changes next) (other : Text) :
    next.schema? other = db.schema? other := by
  cases done with
  | nothing found absent => rfl
  | row replaced =>
      by_cases same : other = name
      · rw [same, Database.schema?, Database.schema?, replaced.table?_self, replaced.found]
        rfl
      · rw [Database.schema?, Database.schema?, replaced.table?_of_ne same]

end

end Database

end CatalogListing
