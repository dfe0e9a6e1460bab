/-
# Proofs.Store.Copy -- the rows of one catalog in another

The rows of a catalog are those of its authors, books and reviews.  They are admitted when
they have what the tables require of them (`Database.Admitted`), and then they can be
inserted with all of their values into a catalog without rows (`exists_copyInto`).

Whatever the order in which they go in, each table of the copy has the rows of the
original (`table?_of_copyInto`): an insertion of all values of a row makes the very row, and a
table holds its rows in the order of their keys.
-/
import CatalogListing.Proofs.Store.KeyOrder
import CatalogListing.Proofs.Store.Resources

namespace CatalogListing

set_option autoImplicit false

open Database (Inserted)

/-! ## Rows that a table admits -/

/-- The row has a value for each column, as the column stores it. -/
def Schema.Stores (schema : Schema) (row : Row) : Prop :=
  row.cells = schema.columns.map fun column =>
    (column.name, (row.cell column.name).store column.affinity)

/-- The rows of a table are as the table requires them. -/
structure Table.Admits (table : Table) : Prop where
  inOrder : table.InOrder
  stores : ∀ row ∈ table.rows, table.schema.Stores row
  values : ∀ row ∈ table.rows, Database.requireValues table row = .ok ()
  checks : ∀ row ∈ table.rows, Database.requireChecks table row = .ok ()
  unique : ∀ row ∈ table.rows, Database.requireUnique (table.without [row.key]) row = .ok ()

instance (schema : Schema) (row : Row) : Decidable (schema.Stores row) :=
  inferInstanceAs (Decidable (row.cells = _))

instance (table : Table) : Decidable table.InOrder :=
  inferInstanceAs (Decidable (List.Pairwise _ _))

instance (table : Table) : Decidable table.Admits :=
  decidable_of_iff (table.InOrder ∧ (∀ row ∈ table.rows, table.schema.Stores row) ∧
      (∀ row ∈ table.rows, Database.requireValues table row = .ok ()) ∧
      (∀ row ∈ table.rows, Database.requireChecks table row = .ok ()) ∧
      ∀ row ∈ table.rows, Database.requireUnique (table.without [row.key]) row = .ok ())
    ⟨fun ⟨inOrder, stores, values, checks, unique⟩ => ⟨inOrder, stores, values, checks, unique⟩,
      fun ⟨inOrder, stores, values, checks, unique⟩ => ⟨inOrder, stores, values, checks, unique⟩⟩

/-- The tables whose rows make a catalog, those that others refer to first. -/
def catalogSchemas : List Schema :=
  [Tables.authors, Tables.books, Tables.reviews]

theorem forall_catalogSchemas {holds : Schema → Prop} (authors : holds Tables.authors)
    (books : holds Tables.books) (reviews : holds Tables.reviews) :
    ∀ schema ∈ catalogSchemas, holds schema := by
  simp only [catalogSchemas, List.forall_mem_cons]
  exact ⟨authors, books, reviews, fun _ member => (List.not_mem_nil member).elim⟩

/-- The rows of a catalog are as their tables require them, and refer to rows that are
there. -/
def Database.Admitted (db : Database) : Prop :=
  ∀ schema ∈ catalogSchemas, ∀ table ∈ db.table? schema.name,
    table.schema = schema ∧ table.Admits ∧
      ∀ row ∈ table.rows, ∀ reference ∈ schema.references, db.refers reference row = true

instance (db : Database) : Decidable db.Admitted :=
  inferInstanceAs (Decidable (∀ schema ∈ catalogSchemas, ∀ table ∈ db.table? schema.name, _ ∧ _))

/-- The rows of the table of a name. -/
def Database.rowsOf (db : Database) (name : Text) : List Row :=
  ((db.table? name).map (·.rows)).getD []

/-- The rows of a catalog with their schemas. -/
def Database.catalogRows (db : Database) : List (Schema × Row) :=
  catalogSchemas.flatMap fun schema => (db.rowsOf schema.name).map fun row => (schema, row)

/-- Rows are inserted one after the other, each with all of its values. -/
def Database.copyInto (db : Database) (rows : List (Schema × Row)) : Except Fault Database :=
  rows.foldlM (fun db row => db.insert row.1.name (row.2.values row.1)) db

theorem nodup_columnNames : ∀ schema ∈ catalogSchemas, schema.columnNames.Nodup := by
  decide

theorem nodup_names_catalogSchemas : (catalogSchemas.map (·.name)).Nodup := by
  decide

/-! ## A row from its values -/

theorem lookup_map_self {names : List Text} (value : Text → Scalar) {name : Text}
    (member : name ∈ names) : (names.map fun name => (name, value name)).lookup name =
      some (value name) := by
  induction names with
  | nil => cases member
  | cons first rest ih =>
      rw [List.map_cons, List.lookup_cons]
      by_cases here : name = first
      · rw [here, beq_self_eq_true]
      · have apart : (name == first) = false := by simpa using here
        rw [apart]
        exact ih ((List.mem_cons.1 member).resolve_left here)

section

variable {schema : Schema} {row : Row}

theorem Row.lookup_values {name : Text} (member : name ∈ schema.columnNames) :
    (row.values schema).lookup name = some (row.value schema name) :=
  lookup_map_self _ member

theorem Row.lookup_key (row : Row) (schema : Schema) :
    (row.values schema).lookup schema.key = some (.integer row.key) := by
  rw [Row.lookup_values List.mem_cons_self, Row.value, if_pos rfl]

/-- The values of a row that is stored make its cells. -/
theorem Schema.Stores.cells_eq (stores : schema.Stores row) (names : schema.columnNames.Nodup) :
    schema.columns.map (Database.cellOf (row.values schema)) = row.cells := by
  rw [stores]
  refine List.map_congr_left fun column member => ?_
  have named : column.name ∈ schema.columns.map (·.name) := List.mem_map_of_mem member
  have notKey : column.name ≠ schema.key := fun same =>
    (List.nodup_cons.1 names).1 (same ▸ named)
  rw [Database.cellOf, Row.lookup_values (List.mem_cons_of_mem _ named), Row.value, if_neg notKey]

/-- An insertion of all values of a row that is stored makes the very row. -/
theorem Database.Inserted.row_eq {db next : Database} {name : Text} {table : Table} {made : Row}
    (done : Inserted db name (row.values schema) next table made) (same : table.schema = schema)
    (stores : schema.Stores row) (names : schema.columnNames.Nodup) : made = row := by
  have cells := done.cells
  have keyed := done.keyed
  rw [same, stores.cells_eq names] at cells
  rw [same, Row.lookup_key] at keyed
  have key : row.key = made.key := Except.ok.inj keyed
  obtain ⟨key', cells'⟩ := made
  obtain ⟨key'', cells''⟩ := row
  cases cells
  cases key
  rfl

end

/-! ## What an insertion requires -/

namespace Database

variable {db next : Database} {table : Table} {row : Row}

theorem requireUnique_of_subset {others : Table} (same : table.schema = others.schema)
    (among : ∀ other ∈ table.rows, other ∈ others.rows)
    (unique : requireUnique others row = .ok ()) : requireUnique table row = .ok () := by
  rw [requireUnique, forM_eq_ok_iff] at unique ⊢
  intro column member
  have apart := unique column (same ▸ member)
  by_cases taken : (column.unique && !(row.cell column.name).isNull &&
      table.rows.any fun other => (other.cell column.name).same (row.cell column.name)) = true
  · rw [Bool.and_eq_true] at taken
    obtain ⟨asks, someRow⟩ := taken
    obtain ⟨other, inTable, equal⟩ := List.any_eq_true.1 someRow
    have takenToo : (column.unique && !(row.cell column.name).isNull &&
        others.rows.any fun other => (other.cell column.name).same (row.cell column.name)) = true := by
      rw [Bool.and_eq_true]
      exact ⟨asks, List.any_eq_true.2 ⟨other, among other inTable, equal⟩⟩
    simp only [takenToo, if_true] at apart
    cases apart
  · simp only [taken]
    rfl

theorem refers_iff {reference : Reference} :
    db.refers reference row = true ↔ row.cell reference.column = .null ∨
      ∃ n, row.cell reference.column = .integer n ∧
        n ∈ (db.rowsOf reference.table).map (·.key) := by
  unfold refers rowsOf
  cases row.cell reference.column with
  | integer n =>
      cases db.table? reference.table with
      | none => simp
      | some table => simp [Table.hasKey]
  | _ => simp

/-- A row with all that its table requires is inserted. -/
theorem insert_values (found : db.table? table.schema.name = some table)
    (names : table.schema.columnNames.Nodup) (stores : table.schema.Stores row)
    (parents : db.requireParents table.schema.references = .ok ())
    (index : db.requireIndex table = .ok ()) (values : requireValues table row = .ok ())
    (checks : requireChecks table row = .ok ()) (fresh : table.hasKey row.key = false)
    (unique : requireUnique table row = .ok ())
    (references : ∀ reference ∈ table.schema.references,
      ((db.withTable (table.add row)).indexAdded table row).refers reference row = true) :
    db.insert table.schema.name (row.values table.schema) =
      .ok ((db.withTable (table.add row)).indexAdded table row) := by
  have requires : db.requireTable table.schema.name = .ok table := by rw [requireTable, found]
  have columns : (row.values table.schema).forM (fun cell =>
      if table.schema.hasColumn cell.1 then Except.ok ()
      else refuse 1 ("table " ++ table.schema.name ++ " has no column named " ++ cell.1)) =
        .ok () := by
    rw [forM_eq_ok_iff]
    intro cell member
    obtain ⟨column, among, rfl⟩ := List.mem_map.1 member
    exact if_pos (List.contains_iff_mem.2 among)
  have key : keyOf table (((row.values table.schema).lookup table.schema.key).getD .null) =
      .ok row.key := by
    rw [Row.lookup_key]
    rfl
  have freshKey : requireFreshKey table row.key = .ok () := by
    rw [requireFreshKey, fresh]
    rfl
  have refer : ((db.withTable (table.add row)).indexAdded table row).requireReferences
      table.schema.references row = .ok () :=
    if_pos (List.all_eq_true.2 references)
  unfold insert
  simp only [requires, columns, parents, index, key, stores.cells_eq names, values, checks,
    freshKey, unique, refer, bind, Except.bind]
  rfl

end Database

/-! ## Copies in some order -/

section

variable {db next : Database} {order : List (Schema × Row)}

/-- The rows of a schema among rows of all. -/
def rowsFor (schema : Schema) (rows : List (Schema × Row)) : List Row :=
  rows.filterMap fun row => if row.1 = schema then some row.2 else none

theorem rowsFor_cons_self (schema : Schema) (row : Row) (rows : List (Schema × Row)) :
    rowsFor schema ((schema, row) :: rows) = row :: rowsFor schema rows := by
  simp [rowsFor]

theorem rowsFor_cons_of_ne {schema : Schema} {one : Schema × Row} (apart : one.1 ≠ schema)
    (rows : List (Schema × Row)) : rowsFor schema (one :: rows) = rowsFor schema rows := by
  simp [rowsFor, apart]

/-- Every row is one of the catalog, with its values as they are stored. -/
def AllStored (rows : List (Schema × Row)) : Prop :=
  ∀ row ∈ rows, row.1 ∈ catalogSchemas ∧ row.1.Stores row.2

theorem IsCatalog.schema_eq (catalog : IsCatalog db) {schema : Schema}
    (member : schema ∈ catalogSchemas) {table : Table}
    (found : db.table? schema.name = some table) : table.schema = schema := by
  have alone : ∀ shape ∈ catalogShape, ∀ schema ∈ catalogSchemas,
      shape.1.name = schema.name → shape.1 = schema := by decide
  exact alone _ (catalog.shape_mem (Database.mem_of_table? found)) _ member
    (Database.name_of_table? found)

/-- What the first insertion of a copy has done. -/
theorem exists_inserted_of_copyInto (catalog : IsCatalog db) {one : Schema × Row}
    (stored : AllStored (one :: order)) (done : db.copyInto (one :: order) = .ok next) :
    ∃ mid table, Inserted db one.1.name (one.2.values one.1) mid table one.2 ∧
      table.schema = one.1 ∧ mid.copyInto order = .ok next := by
  obtain ⟨listed, stores⟩ := stored one List.mem_cons_self
  rw [Database.copyInto, List.foldlM_cons] at done
  obtain ⟨mid, inserting, done⟩ := Database.ok_of_bind done
  obtain ⟨table, made, inserted⟩ := Database.exists_inserted inserting
  have same := catalog.schema_eq listed inserted.found
  obtain rfl := inserted.row_eq same stores (nodup_columnNames one.1 listed)
  exact ⟨mid, table, inserted, same, done⟩

/-- A copy keeps what every insertion keeps. -/
theorem keeps_copyInto (catalog : IsCatalog db) (stored : AllStored order)
    (done : db.copyInto order = .ok next) :
    IsCatalog next ∧ (InSync db → InSync next) ∧ (db.InOrder → next.InOrder) := by
  induction order generalizing db with
  | nil =>
      cases done
      exact ⟨catalog, id, id⟩
  | cons one rest ih =>
      obtain ⟨mid, table, inserted, -, done⟩ := exists_inserted_of_copyInto catalog stored done
      obtain ⟨shaped, synced, sorted⟩ := ih (inserted.isCatalog catalog)
        (fun row member => stored row (List.mem_cons_of_mem _ member)) done
      exact ⟨shaped, fun sync => synced (inserted.inSync catalog sync),
        fun ordered => sorted (inserted.inOrder ordered)⟩

/-- A table has gained the rows that are copied into it, and kept all else. -/
theorem table?_copyInto (catalog : IsCatalog db) (stored : AllStored order)
    (done : db.copyInto order = .ok next) {schema : Schema} (listed : schema ∈ catalogSchemas)
    {table : Table} (found : db.table? schema.name = some table) :
    ∃ rows, next.table? schema.name = some { table with rows := rows } ∧
      rows.Perm (rowsFor schema order ++ table.rows) := by
  induction order generalizing db table with
  | nil =>
      cases done
      exact ⟨table.rows, found, .refl _⟩
  | cons one rest ih =>
      obtain ⟨mid, other, inserted, same, done⟩ := exists_inserted_of_copyInto catalog stored done
      have later : AllStored rest := fun row member => stored row (List.mem_cons_of_mem _ member)
      have still := inserted.isCatalog catalog
      by_cases here : one.1 = schema
      · -- The row goes to the place of its key, so what is there is known up to the order.
        subst here
        obtain rfl := Option.some.inj (inserted.found.symm.trans found)
        obtain ⟨rows, foundNext, perm⟩ := ih still later done inserted.table?_self
        refine ⟨rows, foundNext, perm.trans ?_⟩
        rw [rowsFor_cons_self one.1 one.2]
        exact ((Table.insertRow_perm one.2 other.rows).append_left _).trans List.perm_middle
      · have apart : schema.name ≠ one.1.name := fun named =>
          here ((List.inj_on_of_nodup_map nodup_names_catalogSchemas listed
            (stored one List.mem_cons_self).1 named).symm)
        obtain ⟨rows, foundNext, perm⟩ :=
          ih still later done ((inserted.table?_of_ne apart).trans found)
        refine ⟨rows, foundNext, perm.trans ?_⟩
        rw [rowsFor_cons_of_ne here]

/-- The rows of a catalog for one of its schemas. -/
theorem rowsFor_catalogRows {schema : Schema} (listed : schema ∈ catalogSchemas) :
    rowsFor schema db.catalogRows = db.rowsOf schema.name := by
  have own (rows : List Row) (other : Schema) :
      rowsFor schema (rows.map fun row => (other, row)) =
        if other = schema then rows else [] := by
    by_cases here : other = schema
    · simp [rowsFor, List.filterMap_map, here]
    · simp [rowsFor, List.filterMap_map, here]
  simp only [Database.catalogRows, catalogSchemas, List.flatMap_cons, List.flatMap_nil,
    List.append_nil]
  have appended (rows others : List (Schema × Row)) :
      rowsFor schema (rows ++ others) = rowsFor schema rows ++ rowsFor schema others :=
    List.filterMap_append
  rw [appended, appended, own, own, own]
  simp only [catalogSchemas, List.mem_cons, List.not_mem_nil, or_false] at listed
  rcases listed with rfl | rfl | rfl
  · rw [if_pos rfl, if_neg (by decide), if_neg (by decide), List.append_nil, List.append_nil]
  · rw [if_neg (by decide), if_pos rfl, if_neg (by decide), List.nil_append, List.append_nil]
  · rw [if_neg (by decide), if_neg (by decide), if_pos rfl, List.nil_append, List.nil_append]

end

/-! ## A copy of all rows -/

section

variable {original db : Database} {schema : Schema} {name : Text} {table : Table} {row : Row}

theorem Database.rowsOf_eq (found : db.table? name = some table) : db.rowsOf name = table.rows := by
  rw [rowsOf, found]
  rfl

theorem Database.exists_table_of_mem_rowsOf (member : row ∈ db.rowsOf name) :
    ∃ table, db.table? name = some table ∧ row ∈ table.rows := by
  cases found : db.table? name with
  | none =>
      rw [rowsOf, found] at member
      cases member
  | some table => exact ⟨table, rfl, rowsOf_eq found ▸ member⟩

theorem Database.requireValues_congr {other : Table} (same : table.schema = other.schema)
    (row : Row) : requireValues table row = requireValues other row := by
  unfold requireValues onColumn
  rw [same]

theorem Database.requireChecks_congr {other : Table} (same : table.schema = other.schema)
    (row : Row) : requireChecks table row = requireChecks other row := by
  unfold requireChecks
  rw [same]

theorem Table.rows_add_of_last (last : ∀ other ∈ table.rows, other.key < row.key) :
    (table.add row).rows = table.rows ++ [row] := by
  unfold add
  generalize table.rows = rows at last
  induction rows with
  | nil => rfl
  | cons first rest ih =>
      obtain ⟨here, later⟩ := List.forall_mem_cons.1 last
      change insertRow row (first :: rest) = first :: (rest ++ [row])
      rw [insertRow, if_neg (by omega)]
      exact congrArg (first :: ·) (ih later)

theorem IsCatalog.exists_catalogTable (catalog : IsCatalog db) (listed : schema ∈ catalogSchemas) :
    ∃ table, db.table? schema.name = some table ∧ table.schema = schema := by
  have among : ∀ schema ∈ catalogSchemas, ∃ shape ∈ catalogShape, shape.1 = schema := by decide
  obtain ⟨shape, member, rfl⟩ := among schema listed
  obtain ⟨table, found, rfl⟩ := catalog.exists_table member
  exact ⟨table, found, rfl⟩

/-- The tables that a table of a catalog refers to are others, and there. -/
theorem IsCatalog.requireParents (catalog : IsCatalog db) (listed : schema ∈ catalogSchemas) :
    db.requireParents schema.references = .ok () := by
  have among : ∀ schema ∈ catalogSchemas, ∀ reference ∈ schema.references,
      ∃ parent ∈ catalogSchemas, parent.name = reference.table := by decide
  rw [Database.requireParents, Database.forM_eq_ok_iff]
  intro reference member
  obtain ⟨parent, among, same⟩ := among schema listed reference member
  obtain ⟨table, found, -⟩ := catalog.exists_catalogTable among
  rw [Database.requirePresent, if_pos]
  rw [Database.hasTable, ← same, found]
  rfl

theorem IsCatalog.requireIndex (catalog : IsCatalog db) (table : Table) :
    db.requireIndex table = .ok () := by
  rw [Database.requireIndex, Database.requirePresent, if_pos]
  rw [catalog.index, Bool.or_true]

theorem reference_apart : ∀ schema ∈ catalogSchemas, ∀ reference ∈ schema.references,
    reference.table ≠ schema.name := by
  decide

/-- The next row of a table can be inserted when those before it are there, and the rows that
it refers to. -/
theorem exists_inserted_next (admitted : original.Admitted) (listed : schema ∈ catalogSchemas)
    (catalog : IsCatalog db) {before later : List Row}
    (rows : original.rowsOf schema.name = before ++ row :: later)
    (held : db.rowsOf schema.name = before)
    (parents : ∀ reference ∈ schema.references,
      db.rowsOf reference.table = original.rowsOf reference.table) :
    ∃ next table, db.insert schema.name (row.values schema) = .ok next ∧
      Inserted db schema.name (row.values schema) next table row ∧
      next.rowsOf schema.name = before ++ [row] := by
  have member : row ∈ original.rowsOf schema.name := by simp [rows]
  obtain ⟨whole, foundWhole, inWhole⟩ := Database.exists_table_of_mem_rowsOf member
  obtain ⟨isSchema, admits, refers⟩ := admitted schema listed whole foundWhole
  obtain ⟨table, found, rfl⟩ := catalog.exists_catalogTable listed
  rw [Database.rowsOf_eq foundWhole] at rows
  rw [Database.rowsOf_eq found] at held
  have names := nodup_columnNames _ listed
  have stores : table.schema.Stores row := isSchema ▸ admits.stores row inWhole
  -- The rows before have smaller keys, so the next one is the last of the table.
  have inOrder := admits.inOrder
  rw [Table.InOrder, rows, List.pairwise_append] at inOrder
  have last : ∀ other ∈ table.rows, other.key < row.key := fun other among =>
    inOrder.2.2 other (held ▸ among) row List.mem_cons_self
  have fresh : table.hasKey row.key = false := by
    simp only [Table.hasKey, List.any_eq_false, beq_iff_eq]
    intro other among same
    have less := last other among
    omega
  have others : ∀ other ∈ table.rows, other ∈ (whole.without [row.key]).rows := by
    intro other among
    have less := last other among
    have apart : other.key ≠ row.key := by omega
    refine List.mem_filter.2 ⟨?_, by simp [apart]⟩
    rw [rows]
    exact List.mem_append_left _ (held ▸ among)
  have sameSchema : table.schema = (whole.without [row.key]).schema := isSchema.symm
  have unique := Database.requireUnique_of_subset sameSchema others (admits.unique row inWhole)
  have done := Database.insert_values found names stores (catalog.requireParents listed)
    (catalog.requireIndex table)
    ((Database.requireValues_congr isSchema.symm row).trans (admits.values row inWhole))
    ((Database.requireChecks_congr isSchema.symm row).trans (admits.checks row inWhole)) fresh unique
    (fun reference among => by
      have leads := Database.refers_iff.1 (refers row inWhole reference among)
      rw [← parents reference among] at leads
      refine Database.refers_iff.2 ?_
      rwa [Database.rowsOf, Database.table?_of_tables (Database.tables_indexAdded _ _ _),
        Database.table?_withTable_of_ne db (table.add row) (reference_apart _ listed reference among)])
  obtain ⟨other, made, inserted⟩ := Database.exists_inserted done
  obtain rfl := Option.some.inj (found.symm.trans inserted.found)
  obtain rfl := inserted.row_eq rfl stores names
  refine ⟨_, table, done, inserted, ?_⟩
  rw [Database.rowsOf_eq inserted.table?_self, Table.rows_add_of_last last, held]

theorem Database.copyInto_append (db : Database) (rows later : List (Schema × Row)) :
    db.copyInto (rows ++ later) = (db.copyInto rows).bind fun next => next.copyInto later := by
  rw [copyInto, List.foldlM_append]
  rfl

/-- The rows of one table are copied in the order of their keys. -/
theorem exists_copyInto_table (admitted : original.Admitted) (listed : schema ∈ catalogSchemas)
    (catalog : IsCatalog db) {before later : List Row}
    (rows : original.rowsOf schema.name = before ++ later)
    (held : db.rowsOf schema.name = before)
    (parents : ∀ reference ∈ schema.references,
      db.rowsOf reference.table = original.rowsOf reference.table) :
    ∃ next, db.copyInto (later.map fun row => (schema, row)) = .ok next ∧ IsCatalog next ∧
      next.rowsOf schema.name = original.rowsOf schema.name ∧
      ∀ other, other ≠ schema.name → next.rowsOf other = db.rowsOf other := by
  induction later generalizing db before with
  | nil =>
      refine ⟨db, rfl, catalog, ?_, fun _ _ => rfl⟩
      rw [rows, held, List.append_nil]
  | cons row later ih =>
      obtain ⟨mid, table, done, inserted, heldMid⟩ :=
        exists_inserted_next admitted listed catalog rows held parents
      have same (other : Text) (apart : other ≠ schema.name) : mid.rowsOf other = db.rowsOf other := by
        rw [Database.rowsOf, Database.rowsOf, inserted.table?_of_ne apart]
      have rowsMid : original.rowsOf schema.name = (before ++ [row]) ++ later := by simp [rows]
      obtain ⟨next, copied, shaped, heldNext, sameNext⟩ :=
        ih (inserted.isCatalog catalog) rowsMid heldMid fun reference among =>
          (same _ (reference_apart schema listed reference among)).trans (parents reference among)
      refine ⟨next, ?_, shaped, heldNext, fun other apart =>
        (sameNext other apart).trans (same other apart)⟩
      rw [List.map_cons, Database.copyInto, List.foldlM_cons, done]
      exact copied

/-- **All rows of a catalog can be copied** into one that has none, those first that others
refer to. -/
theorem exists_copyInto (admitted : original.Admitted) (catalog : IsCatalog db)
    (new : ∀ schema ∈ catalogSchemas, db.rowsOf schema.name = []) :
    ∃ next, db.copyInto original.catalogRows = .ok next := by
  have authors : Tables.authors ∈ catalogSchemas := by decide
  have books : Tables.books ∈ catalogSchemas := by decide
  have reviews : Tables.reviews ∈ catalogSchemas := by decide
  obtain ⟨first, copiedFirst, catalogFirst, heldFirst, sameFirst⟩ :=
    exists_copyInto_table admitted authors catalog (List.nil_append _).symm (new _ authors)
      fun reference among => (List.not_mem_nil among).elim
  obtain ⟨second, copiedSecond, catalogSecond, heldSecond, sameSecond⟩ :=
    exists_copyInto_table admitted books catalogFirst (List.nil_append _).symm
      ((sameFirst _ (by decide)).trans (new _ books)) fun reference among => by
        obtain rfl := List.mem_singleton.1 among
        exact heldFirst
  obtain ⟨third, copiedThird, -⟩ :=
    exists_copyInto_table admitted reviews catalogSecond (List.nil_append _).symm
      (((sameSecond _ (by decide)).trans (sameFirst _ (by decide))).trans (new _ reviews))
      fun reference among => by
        obtain rfl := List.mem_singleton.1 among
        exact heldSecond
  refine ⟨third, ?_⟩
  simp only [Database.catalogRows, catalogSchemas, List.flatMap_cons, List.flatMap_nil,
    List.append_nil]
  rw [Database.copyInto_append, copiedFirst, Except.bind, Database.copyInto_append, copiedSecond,
    Except.bind, copiedThird]

theorem Database.Admitted.allStored (admitted : original.Admitted) :
    AllStored original.catalogRows := by
  intro one member
  obtain ⟨schema, listed, inTable⟩ := List.mem_flatMap.1 member
  obtain ⟨row, among, rfl⟩ := List.mem_map.1 inTable
  obtain ⟨table, found, inRows⟩ := Database.exists_table_of_mem_rowsOf among
  obtain ⟨same, admits, -⟩ := admitted schema listed table found
  exact ⟨listed, same ▸ admits.stores row inRows⟩

theorem Database.Admitted.inOrder (admitted : original.Admitted) (listed : schema ∈ catalogSchemas) :
    (original.rowsOf schema.name).Pairwise fun row later => row.key < later.key := by
  cases found : original.table? schema.name with
  | none =>
      rw [Database.rowsOf, found]
      exact .nil
  | some table =>
      rw [Database.rowsOf_eq found]
      exact (admitted schema listed table found).2.1.inOrder

/-- **A copy has the rows of the original**, in whatever order they went in. -/
theorem table?_of_copyInto (admitted : original.Admitted) (catalog : IsCatalog db)
    (ordered : db.InOrder) (new : ∀ schema ∈ catalogSchemas, db.rowsOf schema.name = [])
    {order : List (Schema × Row)} (all : order.Perm original.catalogRows) {copy : Database}
    (done : db.copyInto order = .ok copy) (listed : schema ∈ catalogSchemas)
    (found : db.table? schema.name = some table) :
    copy.table? schema.name = some { table with rows := original.rowsOf schema.name } := by
  have stored : AllStored order := fun one member => admitted.allStored one (all.mem_iff.1 member)
  obtain ⟨-, -, sorted⟩ := keeps_copyInto catalog stored done
  obtain ⟨rows, foundCopy, perm⟩ := table?_copyInto catalog stored done listed found
  have none_ : table.rows = [] := (Database.rowsOf_eq found).symm.trans (new schema listed)
  have same : rows.Perm (original.rowsOf schema.name) := by
    rw [none_, List.append_nil] at perm
    rw [← rowsFor_catalogRows listed]
    exact perm.trans (all.filterMap _)
  have inOrder : rows.Pairwise fun row later => row.key < later.key :=
    (sorted ordered).of_table? foundCopy
  -- Both lists are in the order of their keys, so they are the same.
  have equal : rows = original.rowsOf schema.name :=
    same.eq_of_pairwise (fun _ _ _ _ less more => absurd less (Int.lt_asymm more)) inOrder
      (admitted.inOrder listed)
  rw [foundCopy, equal]

end

end CatalogListing
