/-
# Proofs.Store.Catalog -- the shape that statements keep

A database of the catalog has five tables, of which only the books tell the full-text
index of their changes (`IsCatalog`).  Statements change rows and the index but never
this shape, and no two rows of a table ever have the same key.

* `IsCatalog.withTable`: a table may be put in the place of the one of its name;
* `cascade_induction`: what every removal of rows keeps, a deletion keeps.
-/
import Mathlib.Data.List.Nodup
import CatalogListing.Proofs.Store.Postings
import CatalogListing.Proofs.Store.Statements
import CatalogListing.Store.Tables

namespace CatalogListing

set_option autoImplicit false

/-! ## Rows of a table -/

namespace Table

def keys (table : Table) : List Int :=
  table.rows.map (·.key)

theorem insertRow_perm (row : Row) (rows : List Row) :
    (insertRow row rows).Perm (row :: rows) := by
  induction rows with
  | nil => exact .refl _
  | cons other rest ih =>
      rw [insertRow]
      split
      · exact .refl _
      · exact (ih.cons other).trans (.swap row other rest)

theorem hasKey_iff {table : Table} {key : Int} : table.hasKey key = true ↔ key ∈ table.keys := by
  simp [hasKey, keys]

theorem key_notMem {table : Table} {key : Int} (fresh : table.hasKey key = false) :
    key ∉ table.keys := by
  intro member
  rw [hasKey_iff.2 member] at fresh
  cases fresh

theorem keys_add {table : Table} (unique : table.keys.Nodup) {row : Row}
    (fresh : table.hasKey row.key = false) : (table.add row).keys.Nodup := by
  have perm : (table.add row).keys.Perm (row.key :: table.keys) :=
    (insertRow_perm row table.rows).map _
  exact perm.nodup_iff.2 (List.nodup_cons.2 ⟨key_notMem fresh, unique⟩)

theorem keys_without {table : Table} (unique : table.keys.Nodup) (keys : List Int) :
    (table.without keys).keys.Nodup :=
  unique.sublist (List.filter_sublist.map _)

theorem mem_of_row? {table : Table} {key : Int} {row : Row} (found : table.row? key = some row) :
    row ∈ table.rows ∧ row.key = key :=
  ⟨List.mem_of_find?_eq_some found, by simpa using List.find?_some found⟩

end Table

/-! ## Tables of a database -/

namespace Database

theorem name_of_table? {db : Database} {name : Text} {table : Table}
    (found : db.table? name = some table) : table.schema.name = name := by
  simpa using List.find?_some found

theorem mem_of_table? {db : Database} {name : Text} {table : Table}
    (found : db.table? name = some table) : table ∈ db.tables :=
  List.mem_of_find?_eq_some found

theorem mem_withTable {db : Database} {table other : Table}
    (member : other ∈ (db.withTable table).tables) : other = table ∨ other ∈ db.tables := by
  obtain ⟨before, among, replaced⟩ := List.mem_map.1 member
  split at replaced
  · exact Or.inl replaced.symm
  · exact Or.inr (replaced ▸ among)

theorem table?_withTable_of_ne (db : Database) (table : Table) {name : Text}
    (different : name ≠ table.schema.name) : (db.withTable table).table? name = db.table? name := by
  obtain ⟨tables, index⟩ := db
  simp only [table?, withTable]
  induction tables with
  | nil => rfl
  | cons first rest ih =>
      rw [List.map_cons, List.find?_cons, List.find?_cons, ih]
      by_cases same : first.schema.name = table.schema.name
      · have notNew : (table.schema.name == name) = false := by simpa using different.symm
        have notOld : (first.schema.name == name) = false := by rw [same]; exact notNew
        rw [if_pos same, notNew, notOld]
      · rw [if_neg same]

theorem table?_withTable_self {db : Database} {table old : Table}
    (found : db.table? table.schema.name = some old) :
    (db.withTable table).table? table.schema.name = some table := by
  obtain ⟨tables, index⟩ := db
  simp only [table?, withTable] at found ⊢
  induction tables with
  | nil => cases found
  | cons first rest ih =>
      rw [List.map_cons, List.find?_cons]
      rw [List.find?_cons] at found
      by_cases same : first.schema.name = table.schema.name
      · simp [if_pos same]
      · have other : (first.schema.name == table.schema.name) = false := by simpa using same
        rw [if_neg same, other]
        rw [other] at found
        exact ih found

/-! ## The index is told -/

/-- The keys and indexed texts of rows. -/
def indexEntries (rows : List Row) : List (Int × Text) :=
  rows.map fun row => (row.key, indexedText row)

/-- The index told that rows are gone, one after the other. -/
theorem foldl_indexRemoved (table : Table) (rows : List Row) (db : Database) :
    rows.foldl (fun db row => db.indexRemoved table row) db =
      if table.watched then
        { db with index := db.index.map (Search.removeAll (indexEntries rows)) }
      else db := by
  induction rows generalizing db with
  | nil =>
      split
      · obtain ⟨tables, index⟩ := db
        cases index <;> rfl
      · rfl
  | cons row rest ih =>
      rw [List.foldl_cons, ih]
      by_cases watched : table.watched = true
      · simp only [indexRemoved, watched, if_true, Option.map_map]
        rfl
      · simp [indexRemoved, watched]

/-- What every removal of rows keeps, a deletion with all that refers to it keeps. -/
theorem cascade_induction {motive : Database → Prop}
    (remove : ∀ (db : Database) (name : Text) (table : Table) (keys : List Int),
      db.table? name = some table → motive db → motive (db.removeRows table keys))
    (fuel : Nat) {db : Database} (start : motive db) (name : Text) (keys : List Int) :
    motive (cascade fuel db name keys) := by
  induction fuel generalizing db name keys with
  | zero => exact start
  | succ fuel ih =>
      simp only [cascade]
      split
      · exact start
      · rename_i table found
        have removed := remove db name table keys found start
        generalize db.removeRows table keys = rest at removed
        generalize db.children name = children
        induction children generalizing rest with
        | nil => exact removed
        | cons child others step => exact step _ (ih removed _ _)

end Database

/-! ## The shape of the catalog -/

/-- The tables of a database, and whether the index is told of their changes. -/
def catalogShape : List (Schema × Bool) :=
  [(Tables.schemaVersion, false), (Tables.schemaMigrations, false), (Tables.authors, false),
    (Tables.books, true), (Tables.reviews, false)]

/-- A table without its rows. -/
def Table.shape (table : Table) : Schema × Bool :=
  (table.schema, table.watched)

/-- The database has the tables of the catalog, with unique keys, and the index. -/
structure IsCatalog (db : Database) : Prop where
  shape : db.tables.map Table.shape = catalogShape
  unique : ∀ table ∈ db.tables, table.keys.Nodup
  index : db.index.isSome = true

theorem nodup_names_catalogShape : (catalogShape.map fun shape => shape.1.name).Nodup := by
  decide

/-- Only the books are watched. -/
theorem watched_iff_of_mem_catalogShape :
    ∀ shape ∈ catalogShape, shape.2 = true ↔ shape.1.name = Tables.books.name := by
  decide

theorem schema_of_mem_catalogShape :
    ∀ shape ∈ catalogShape, shape.1.name = Tables.books.name → shape.1 = Tables.books := by
  decide

namespace IsCatalog

variable {db : Database} {table : Table} {name : Text}

theorem shape_mem (catalog : IsCatalog db) (member : table ∈ db.tables) :
    table.shape ∈ catalogShape := by
  rw [← catalog.shape]
  exact List.mem_map_of_mem member

theorem nodup_names (catalog : IsCatalog db) : (db.tables.map fun t => t.schema.name).Nodup := by
  have names := nodup_names_catalogShape
  rw [← catalog.shape, List.map_map] at names
  exact names

theorem eq_of_name (catalog : IsCatalog db) {other : Table} (member : table ∈ db.tables)
    (among : other ∈ db.tables) (same : table.schema.name = other.schema.name) : table = other :=
  List.inj_on_of_nodup_map catalog.nodup_names member among same

theorem watched_iff (catalog : IsCatalog db) (found : db.table? name = some table) :
    table.watched = true ↔ name = Tables.books.name := by
  rw [← Database.name_of_table? found]
  exact watched_iff_of_mem_catalogShape _ (catalog.shape_mem (Database.mem_of_table? found))

theorem schema_books (catalog : IsCatalog db)
    (found : db.table? Tables.books.name = some table) : table.schema = Tables.books :=
  schema_of_mem_catalogShape _ (catalog.shape_mem (Database.mem_of_table? found))
    (Database.name_of_table? found)

/-- A table with unique keys may be put in the place of the one of its name. -/
theorem withTable (catalog : IsCatalog db) (found : db.table? name = some table) {other : Table}
    (same : other.shape = table.shape) (unique : other.keys.Nodup) :
    IsCatalog (db.withTable other) where
  shape := by
    rw [← catalog.shape]
    simp only [Database.withTable, List.map_map]
    refine List.map_congr_left fun before member => ?_
    by_cases named : before.schema.name = other.schema.name
    · have sameName : before.schema.name = table.schema.name := by
        rw [named]
        exact congrArg (fun shape => shape.1.name) same
      have sameTable := catalog.eq_of_name member (Database.mem_of_table? found) sameName
      rw [Function.comp_apply, if_pos named, same, sameTable]
    · rw [Function.comp_apply, if_neg named]
  unique := by
    intro after member
    rcases Database.mem_withTable member with rfl | before
    · exact unique
    · exact catalog.unique after before
  index := catalog.index

/-- Changes of the index that keep it leave the shape. -/
theorem withIndex (catalog : IsCatalog db) (change : Search.Index → Search.Index) :
    IsCatalog { db with index := db.index.map change } where
  shape := catalog.shape
  unique := catalog.unique
  index := by simpa using catalog.index

theorem indexAdded (catalog : IsCatalog db) (table : Table) (row : Row) :
    IsCatalog (db.indexAdded table row) := by
  unfold Database.indexAdded
  split
  · exact catalog.withIndex _
  · exact catalog

theorem indexRemoved (catalog : IsCatalog db) (table : Table) (row : Row) :
    IsCatalog (db.indexRemoved table row) := by
  unfold Database.indexRemoved
  split
  · exact catalog.withIndex _
  · exact catalog

theorem removeRows (catalog : IsCatalog db) (found : db.table? name = some table)
    (keys : List Int) : IsCatalog (db.removeRows table keys) := by
  have unique := Table.keys_without (catalog.unique table (Database.mem_of_table? found)) keys
  have without := catalog.withTable found (rfl : (table.without keys).shape = table.shape) unique
  unfold Database.removeRows
  rw [Database.foldl_indexRemoved]
  split
  · exact without.withIndex _
  · exact without

end IsCatalog

end CatalogListing
