/-
# Proofs.Store.Sync -- which writes keep the index with the books

The index is in sync when it holds one entry for each book, under its key and of its
present title.  Every write on a database in sync leaves it in sync, but for one: an
update that moves a book to another key and does not name its title, if there is a word
in that title (`Strays`).  The index is then not told, and goes on holding the title
under the key that is gone.

* `inSync_after_iff`: one write;
* `inSync_along_iff`: a sequence of writes, at all of the databases it goes through.
-/
import Mathlib.Data.List.Induction
import CatalogListing.Proofs.Store.Catalog

namespace CatalogListing

set_option autoImplicit false

open Database (Inserted Deleted Updated Replaced tellsIndex indexEntries indexedText)
open Search (Follows words)

/-! ## In sync -/

/-- The index has the entries of the books, each once, and no others. -/
def InSync (db : Database) : Prop :=
  ∃ table index, db.table? Tables.books.name = some table ∧ db.index = some index ∧
    Follows index (indexEntries table.rows)

theorem inSync_of_same {db next : Database} (sync : InSync db)
    (table : next.table? Tables.books.name = db.table? Tables.books.name)
    (index : next.index = db.index) : InSync next := by
  obtain ⟨books, held, found, present, follows⟩ := sync
  exact ⟨books, held, table.trans found, index.trans present, follows⟩

namespace Table

theorem entries_keys (table : Table) : (indexEntries table.rows).map (·.1) = table.keys := by
  simp [indexEntries, keys, Function.comp_def]

theorem entries_add (table : Table) (row : Row) :
    (indexEntries (table.add row).rows).Perm
      ((row.key, indexedText row) :: indexEntries table.rows) :=
  (insertRow_perm row table.rows).map _

theorem entries_without (table : Table) (keys : List Int) :
    indexEntries (table.without keys).rows = Search.leftOf keys (indexEntries table.rows) := by
  simp only [indexEntries, without, Search.leftOf, List.filter_map]
  rfl

/-- With unique keys a table is one of its rows and the others. -/
theorem rows_perm {table : Table} (unique : table.keys.Nodup) {row : Row}
    (member : row ∈ table.rows) :
    table.rows.Perm (row :: (table.without [row.key]).rows) := by
  have others : (table.without [row.key]).rows = table.rows.erase row := by
    rw [unique.of_map.erase_eq_filter]
    refine List.filter_congr fun other among => ?_
    by_cases same : other = row
    · simp [same]
    · have different : other.key ≠ row.key := fun keys =>
        same (List.inj_on_of_nodup_map unique among member keys)
      simp [same, different]
  rw [others]
  exact List.perm_cons_erase member

end Table

/-! ## One table changes -/

theorem Database.table?_of_tables {db next : Database} (same : next.tables = db.tables)
    (name : Text) : next.table? name = db.table? name := by
  unfold Database.table?
  rw [same]

/-- A table changes, and the index too if the table is watched: if the index follows the
changed rows whenever it followed the rows before, it stays in sync. -/
theorem InSync.put {db next : Database} (catalog : IsCatalog db) (sync : InSync db) {name : Text}
    {table other : Table} (found : db.table? name = some table)
    (same : other.shape = table.shape) {change : Search.Index → Search.Index}
    (tables : next.tables = (db.withTable other).tables)
    (index : next.index = if table.watched then db.index.map change else db.index)
    (follows : table.watched = true → ∀ index, Follows index (indexEntries table.rows) →
      Follows (change index) (indexEntries other.rows)) : InSync next := by
  have named : other.schema.name = name :=
    (congrArg (fun shape => shape.1.name) same).trans (Database.name_of_table? found)
  by_cases watched : table.watched = true
  · have isBooks : name = Tables.books.name := (catalog.watched_iff found).1 watched
    obtain ⟨books, held, foundBooks, present, before⟩ := sync
    rw [← isBooks] at foundBooks
    obtain rfl := Option.some.inj (found.symm.trans foundBooks)
    have placed : (db.withTable other).table? other.schema.name = some other :=
      Database.table?_withTable_self (named.symm ▸ found)
    refine ⟨other, change held, ?_, ?_, follows watched held before⟩
    · rw [Database.table?_of_tables tables, ← isBooks, ← named]
      exact placed
    · rw [index, if_pos watched, present, Option.map_some]
  · have notBooks : Tables.books.name ≠ other.schema.name := by
      intro isBooks
      exact watched ((catalog.watched_iff found).2 (named.symm.trans isBooks.symm))
    refine inSync_of_same sync ?_ ?_
    · rw [Database.table?_of_tables tables]
      exact Database.table?_withTable_of_ne db other notBooks
    · rw [index, if_neg watched]

/-! ## Rows that come and go -/

theorem Database.tables_indexAdded (db : Database) (table : Table) (row : Row) :
    (db.indexAdded table row).tables = db.tables := by
  unfold Database.indexAdded
  split <;> rfl

theorem Database.tables_indexRemoved (db : Database) (table : Table) (row : Row) :
    (db.indexRemoved table row).tables = db.tables := by
  unfold Database.indexRemoved
  split <;> rfl

theorem Database.index_indexAdded (db : Database) (table : Table) (row : Row) :
    (db.indexAdded table row).index =
      if table.watched then
        db.index.map fun index => Search.add index row.key (indexedText row)
      else db.index := by
  unfold Database.indexAdded
  split <;> rfl

theorem Database.index_indexRemoved (db : Database) (table : Table) (row : Row) :
    (db.indexRemoved table row).index =
      if table.watched then
        db.index.map fun index => Search.remove index row.key (indexedText row)
      else db.index := by
  unfold Database.indexRemoved
  split <;> rfl

/-- Told of a row with a key of its own, the index follows the table with this row. -/
theorem follows_add {table : Table} {row : Row} (fresh : table.hasKey row.key = false)
    {index : Search.Index} (follows : Follows index (indexEntries table.rows)) :
    Follows (Search.add index row.key (indexedText row)) (indexEntries (table.add row).rows) := by
  have apart : ∀ other ∈ indexEntries table.rows, other.1 ≠ row.key := by
    intro other member same
    refine Table.key_notMem fresh ?_
    rw [← Table.entries_keys, ← same]
    exact List.mem_map_of_mem member
  exact (follows.add apart _).of_perm (table.entries_add row).symm

/-- Told of a row that is gone, the index follows the table without this row. -/
theorem follows_without {table : Table} (unique : table.keys.Nodup) {row : Row}
    (member : row ∈ table.rows) {index : Search.Index}
    (follows : Follows index (indexEntries table.rows)) :
    Follows (Search.remove index row.key (indexedText row))
      (indexEntries (table.without [row.key]).rows) := by
  rw [Table.entries_without]
  exact follows.remove (by rwa [Table.entries_keys]) (List.mem_map_of_mem member)

/-- Told of all rows that are gone, the index follows the table without them. -/
theorem follows_removeAll {table : Table} (unique : table.keys.Nodup) (keys : List Int)
    {index : Search.Index} (follows : Follows index (indexEntries table.rows)) :
    Follows
      (Search.removeAll (indexEntries (table.rows.filter fun row => keys.contains row.key)) index)
      (indexEntries (table.without keys).rows) := by
  let gone := table.rows.filter fun row => keys.contains row.key
  have sub : (indexEntries gone).Sublist (indexEntries table.rows) := List.filter_sublist.map _
  have entriesUnique : ((indexEntries table.rows).map (·.1)).Nodup := by
    rwa [Table.entries_keys]
  have left : Search.leftOf ((indexEntries gone).map (·.1)) (indexEntries table.rows) =
      indexEntries (table.without keys).rows := by
    rw [Table.entries_without]
    refine List.filter_congr fun entry member => ?_
    obtain ⟨row, inTable, rfl⟩ := List.mem_map.1 member
    have sameKeys : row.key ∈ (indexEntries gone).map (·.1) ↔ row.key ∈ keys := by
      simp only [indexEntries, List.map_map, List.mem_map, Function.comp_apply, gone,
        List.mem_filter, List.contains_iff_mem]
      constructor
      · rintro ⟨other, ⟨-, goes⟩, same⟩
        exact same ▸ goes
      · intro goes
        exact ⟨row, ⟨inTable, goes⟩, rfl⟩
    simp [sameKeys]
  rw [← left]
  exact follows.removeAll entriesUnique (entriesUnique.sublist (sub.map _)) sub.subset

theorem Database.Inserted.isCatalog {db next : Database} {name : Text} {given : List (Text × Scalar)}
    {table : Table} {row : Row} (done : Inserted db name given next table row)
    (catalog : IsCatalog db) : IsCatalog next := by
  have unique := Table.keys_add (catalog.unique table (Database.mem_of_table? done.found))
    done.fresh
  have same : (table.add row).shape = table.shape := rfl
  rw [done.result]
  exact (catalog.withTable done.found same unique).indexAdded table row

theorem Database.Inserted.inSync {db next : Database} {name : Text} {given : List (Text × Scalar)}
    {table : Table} {row : Row} (done : Inserted db name given next table row)
    (catalog : IsCatalog db) (sync : InSync db) : InSync next := by
  have same : (table.add row).shape = table.shape := rfl
  rw [done.result]
  exact sync.put catalog done.found same (Database.tables_indexAdded _ table row)
    (Database.index_indexAdded _ table row) fun _ index follows => follows_add done.fresh follows

/-- Rows of a table go, and the index is told. -/
theorem InSync.removeRows {db : Database} (catalog : IsCatalog db) (sync : InSync db)
    {name : Text} {table : Table} (found : db.table? name = some table) (keys : List Int) :
    InSync (db.removeRows table keys) := by
  have unique := catalog.unique table (Database.mem_of_table? found)
  have same : (table.without keys).shape = table.shape := rfl
  unfold Database.removeRows
  rw [Database.foldl_indexRemoved]
  refine sync.put catalog found same ?_ ?_ fun _ index follows =>
    follows_removeAll unique keys follows
  · split <;> rfl
  · split <;> rfl

theorem Database.Deleted.keeps {db next : Database} {name : Text} {key : Int} {table : Table}
    (done : Deleted db name key table next) (catalog : IsCatalog db) :
    IsCatalog next ∧ (InSync db → InSync next) := by
  cases done with
  | nothing found absent => exact ⟨catalog, id⟩
  | row found present =>
      have start : IsCatalog db ∧ (InSync db → InSync db) := ⟨catalog, id⟩
      refine Database.cascade_induction
        (motive := fun next => IsCatalog next ∧ (InSync db → InSync next)) ?_ _ start _ _
      intro between name table keys found kept
      exact ⟨kept.1.removeRows found keys, fun sync => (kept.2 sync).removeRows kept.1 found keys⟩

/-! ## Rows that change -/

theorem lookup_map_columns (columns : List Column) (value : Column → Scalar) (name : Text) :
    (columns.map fun column => (column.name, value column)).lookup name =
      (columns.find? fun column => column.name == name).map value := by
  induction columns with
  | nil => rfl
  | cons column rest ih =>
      rw [List.map_cons, List.lookup_cons, List.find?_cons, ih]
      by_cases same : column.name = name
      · simp [same]
      · have notSame : (name == column.name) = false := by simpa using Ne.symm same
        have notFound : (column.name == name) = false := by simpa using same
        rw [notSame, notFound]

theorem lookup_eq_none_of_tellsIndex {changes : List (Text × Scalar)}
    (untold : tellsIndex changes = false) : changes.lookup Database.indexedColumn = none := by
  rw [List.lookup_eq_none_iff]
  intro change member
  have other := List.any_eq_false.1 untold change member
  simp only [beq_iff_eq] at other
  simpa using Ne.symm other

/-- An update that does not name the title of a book leaves its indexed text. -/
theorem Database.Replaced.indexedText_eq {db next : Database} {name : Text} {key : Int}
    {changes : List (Text × Scalar)} {table : Table} {old new : Row}
    (done : Replaced db name key changes next table old new) (isBooks : table.schema = Tables.books)
    (untold : tellsIndex changes = false) : indexedText new = indexedText old := by
  have same : new.cell Database.indexedColumn = old.cell Database.indexedColumn := by
    have found : (Tables.books.columns.find? fun column =>
        column.name == Database.indexedColumn) =
        some ⟨Database.indexedColumn, .text, true, .null, some (.lengthAtLeast 1), false⟩ := by
      decide
    rw [Row.cell, done.cells, Database.updatedCells, lookup_map_columns, isBooks, found]
    simp only [Option.map_some, Option.getD_some, lookup_eq_none_of_tellsIndex untold]
  unfold indexedText
  rw [same]

theorem Database.Replaced.isCatalog {db next : Database} {name : Text} {key : Int}
    {changes : List (Text × Scalar)} {table : Table} {old new : Row}
    (done : Replaced db name key changes next table old new) (catalog : IsCatalog db) :
    IsCatalog next := by
  have unique := Table.keys_add
    (Table.keys_without (catalog.unique table (Database.mem_of_table? done.found)) [old.key])
    done.fresh
  have same : ((table.without [old.key]).add new).shape = table.shape := rfl
  have replaced := catalog.withTable done.found same unique
  rw [done.result]
  unfold Database.replaceRow
  split
  · exact (replaced.indexRemoved table old).indexAdded table new
  · exact replaced

/-- The index is told of a row that changes. -/
theorem Database.Replaced.inSync_of_told {db next : Database} {name : Text} {key : Int}
    {changes : List (Text × Scalar)} {table : Table} {old new : Row}
    (done : Replaced db name key changes next table old new) (catalog : IsCatalog db)
    (sync : InSync db) (told : tellsIndex changes = true) : InSync next := by
  have unique := catalog.unique table (Database.mem_of_table? done.found)
  have member := (Table.mem_of_row? done.row).1
  have same : ((table.without [old.key]).add new).shape = table.shape := rfl
  have result := done.result
  unfold Database.replaceRow at result
  rw [if_pos told] at result
  refine sync.put catalog done.found same ?_ ?_ fun _ index follows =>
    follows_add done.fresh (follows_without unique member follows)
  · rw [result, Database.tables_indexAdded, Database.tables_indexRemoved]
  · rw [result, Database.index_indexAdded, Database.index_indexRemoved]
    cases table.watched <;> simp [Database.withTable, Function.comp_def]

/-- A replaced row and the others, as the index would have them. -/
theorem Database.Replaced.entries_perm {db next : Database} {name : Text} {key : Int}
    {changes : List (Text × Scalar)} {table : Table} {old new : Row}
    (done : Replaced db name key changes next table old new) (catalog : IsCatalog db) :
    let others := indexEntries (table.without [old.key]).rows
    (indexEntries table.rows).Perm ((old.key, indexedText old) :: others) ∧
      (indexEntries ((table.without [old.key]).add new).rows).Perm
        ((new.key, indexedText new) :: others) := by
  have unique := catalog.unique table (Database.mem_of_table? done.found)
  exact ⟨(Table.rows_perm unique (Table.mem_of_row? done.row).1).map _,
    (table.without [old.key]).entries_add new⟩

/-- The index is not told of a row that changes, but what it should hold of a book is what
it held. -/
theorem Database.Replaced.inSync_of_untold {db next : Database} {name : Text} {key : Int}
    {changes : List (Text × Scalar)} {table : Table} {old new : Row}
    (done : Replaced db name key changes next table old new) (catalog : IsCatalog db)
    (sync : InSync db) (untold : tellsIndex changes = false)
    (same : name = Tables.books.name → new.key = old.key ∨ words (indexedText old) = []) :
    InSync next := by
  have sameShape : ((table.without [old.key]).add new).shape = table.shape := rfl
  have result := done.result
  unfold Database.replaceRow at result
  rw [untold, if_neg Bool.false_ne_true] at result
  obtain ⟨before, after⟩ := done.entries_perm catalog
  have sameIndex : next.index = if table.watched then db.index.map id else db.index := by
    rw [result]
    cases table.watched <;> simp [Database.withTable]
  refine sync.put catalog done.found sameShape (by rw [result]) sameIndex ?_
  intro watched index follows
  have isBooks := (catalog.watched_iff done.found).1 watched
  subst isBooks
  have text := done.indexedText_eq (catalog.schema_books done.found) untold
  rw [text] at after
  have held := follows.of_perm before
  refine Follows.of_perm ?_ after.symm
  rcases same rfl with sameKey | wordless
  · rw [sameKey]
    exact held
  · have nothing (key : Int) : Search.postings key (indexedText old) = [] := by
      rw [Search.postings, wordless]
      rfl
    rw [Follows, Search.build_cons, nothing] at held ⊢
    exact held

/-- A book that moves to another key, untold, stays in the index under the key it had. -/
theorem Database.Replaced.not_inSync {db next : Database} {key : Int} {changes : List (Text × Scalar)}
    {table : Table} {old new : Row}
    (done : Replaced db Tables.books.name key changes next table old new) (catalog : IsCatalog db)
    (sync : InSync db) (untold : tellsIndex changes = false) (moves : new.key ≠ old.key)
    (worded : words (indexedText old) ≠ []) : ¬ InSync next := by
  intro after
  have result := done.result
  unfold Database.replaceRow at result
  rw [untold, if_neg Bool.false_ne_true] at result
  obtain ⟨books, index, found, present, follows⟩ := sync
  obtain rfl := Option.some.inj (done.found.symm.trans found)
  obtain ⟨changed, held, foundAfter, presentAfter, followsAfter⟩ := after
  have named : ((table.without [old.key]).add new).schema.name = Tables.books.name := by
    have ofTable := Database.name_of_table? found
    exact ofTable
  have placed := Database.table?_withTable_self
    (named.symm ▸ found : db.table? ((table.without [old.key]).add new).schema.name = some table)
  rw [named, ← result] at placed
  obtain rfl := Option.some.inj (placed.symm.trans foundAfter)
  have sameIndex : next.index = db.index := by
    rw [result]
    rfl
  obtain rfl := Option.some.inj (presentAfter.symm.trans (sameIndex.trans present))
  obtain ⟨beforeEntries, afterEntries⟩ := done.entries_perm catalog
  obtain ⟨word, rest, first⟩ := List.exists_cons_of_ne_nil worded
  have posted : (⟨old.key, word, 0⟩ : Search.Posting) ∈ held := by
    refine (follows.of_perm beforeEntries).mem_iff.2 ⟨indexedText old, List.mem_cons_self, ?_⟩
    rw [first]
    rfl
  obtain ⟨text, member, -⟩ := (followsAfter.of_perm afterEntries).mem_iff.1 posted
  rcases List.mem_cons.1 member with same | other
  · exact moves (congrArg Prod.fst same).symm
  · rw [Table.entries_without] at other
    have kept := (List.mem_filter.1 other).2
    simp at kept

theorem Database.Updated.isCatalog {db next : Database} {name : Text} {key : Int}
    {changes : List (Text × Scalar)} (done : Updated db name key changes next)
    (catalog : IsCatalog db) : IsCatalog next := by
  cases done with
  | row replaced => exact replaced.isCatalog catalog
  | nothing found absent => exact catalog

/-- An update of another table than the books. -/
theorem Database.Updated.inSync_of_ne {db next : Database} {name : Text} {key : Int}
    {changes : List (Text × Scalar)} (done : Updated db name key changes next)
    (catalog : IsCatalog db) (sync : InSync db) (other : name ≠ Tables.books.name) :
    InSync next := by
  cases done with
  | nothing found absent => exact sync
  | row replaced =>
      cases told : tellsIndex changes with
      | true => exact replaced.inSync_of_told catalog sync told
      | false =>
          exact replaced.inSync_of_untold catalog sync told fun isBooks => absurd isBooks other

/-! ## Writes -/

/-- A statement that changes rows. -/
inductive Write where
  | insert (table : Text) (given : List (Text × Scalar))
  | update (table : Text) (key : Int) (changes : List (Text × Scalar))
  | delete (table : Text) (key : Int)
  deriving DecidableEq, Repr

namespace Database

/-- The database that a write makes, if it completes. -/
def write (db : Database) : Write → Except Fault Database
  | .insert table given => db.insert table given
  | .update table key changes => (db.update table key changes).map (·.1)
  | .delete table key => (db.delete table key).map (·.1)

/-- The database after a write; one that fails leaves no trace. -/
def after (db : Database) (write : Write) : Database :=
  match db.write write with
  | .ok next => next
  | .error _ => db

/-- The database after writes, one after the other. -/
def afterAll (db : Database) (writes : List Write) : Database :=
  writes.foldl after db

end Database

/-- The write moves a book, whose title has words, to another key without naming the
title. -/
def Strays (db : Database) : Write → Prop
  | .update name key changes =>
      name = Tables.books.name ∧ tellsIndex changes = false ∧
        ∃ next table old new, (db.update name key changes).map (·.1) = .ok next ∧
          Replaced db name key changes next table old new ∧ new.key ≠ key ∧
          words (indexedText old) ≠ []
  | _ => False

theorem ok_of_map {ε α β : Type} {first : Except ε α} {change : α → β} {result : β}
    (done : first.map change = .ok result) : ∃ value, first = .ok value ∧ change value = result := by
  cases first with
  | error fault => cases done
  | ok value => exact ⟨value, rfl, Except.ok.inj done⟩

/-- What a write keeps, whatever it is. -/
theorem IsCatalog.after {db : Database} (catalog : IsCatalog db) (write : Write) :
    IsCatalog (db.after write) := by
  unfold Database.after
  split
  · rename_i next done
    cases write with
    | insert name given =>
        obtain ⟨table, row, inserted⟩ := Database.exists_inserted done
        exact inserted.isCatalog catalog
    | update name key changes =>
        obtain ⟨⟨_, count⟩, completed, rfl⟩ := ok_of_map done
        exact (Database.updated completed).isCatalog catalog
    | delete name key =>
        obtain ⟨⟨_, count⟩, completed, rfl⟩ := ok_of_map done
        obtain ⟨table, deleted⟩ := Database.exists_deleted completed
        exact (deleted.keeps catalog).1
  · exact catalog

theorem inSync_update_iff {db next : Database} (catalog : IsCatalog db) (sync : InSync db)
    {name : Text} {key : Int} {changes : List (Text × Scalar)}
    (done : (db.update name key changes).map (·.1) = .ok next) :
    InSync next ↔ ¬ Strays db (.update name key changes) := by
  constructor
  · rintro after ⟨rfl, untold, result, table, old, new, same, replaced, moves, worded⟩
    obtain rfl := Except.ok.inj (same.symm.trans done)
    have oldKey := (Table.mem_of_row? replaced.row).2
    exact replaced.not_inSync catalog sync untold (oldKey ▸ moves) worded after
  · intro straight
    obtain ⟨⟨_, count⟩, completed, rfl⟩ := ok_of_map done
    cases Database.updated completed with
    | nothing found absent => exact sync
    | @row _ table old new replaced =>
        cases told : tellsIndex changes with
        | true => exact replaced.inSync_of_told catalog sync told
        | false =>
            refine replaced.inSync_of_untold catalog sync told fun isBooks => ?_
            by_cases moves : new.key = old.key
            · exact Or.inl moves
            · refine Or.inr (Classical.byContradiction fun worded => straight ?_)
              have oldKey := (Table.mem_of_row? replaced.row).2
              exact ⟨isBooks, told, _, table, old, new, done, replaced, oldKey ▸ moves, worded⟩

/-- A write that fails does not stray. -/
theorem not_strays_of_error {db : Database} {write : Write} {fault : Fault}
    (failed : db.write write = .error fault) : ¬ Strays db write := by
  intro strays
  cases write with
  | update name key changes =>
      obtain ⟨-, -, result, -, -, -, done, -⟩ := strays
      cases done.symm.trans failed
  | insert name given => exact strays
  | delete name key => exact strays

/-- **One write keeps the index in sync unless it strays.** -/
theorem inSync_after_iff {db : Database} (catalog : IsCatalog db) (sync : InSync db)
    (write : Write) : InSync (db.after write) ↔ ¬ Strays db write := by
  unfold Database.after
  split
  · rename_i next done
    cases write with
    | insert name given =>
        obtain ⟨table, row, inserted⟩ := Database.exists_inserted done
        exact ⟨fun _ strays => strays, fun _ => inserted.inSync catalog sync⟩
    | delete name key =>
        obtain ⟨⟨_, count⟩, completed, rfl⟩ := ok_of_map done
        obtain ⟨table, deleted⟩ := Database.exists_deleted completed
        exact ⟨fun _ strays => strays, fun _ => (deleted.keeps catalog).2 sync⟩
    | update name key changes => exact inSync_update_iff catalog sync done
  · rename_i fault failed
    exact ⟨fun _ => not_strays_of_error failed, fun _ => sync⟩

/-! ## Sequences of writes -/

theorem Database.afterAll_append (db : Database) (writes later : List Write) :
    db.afterAll (writes ++ later) = (db.afterAll writes).afterAll later :=
  List.foldl_append

theorem IsCatalog.afterAll {db : Database} (catalog : IsCatalog db) (writes : List Write) :
    IsCatalog (db.afterAll writes) := by
  induction writes generalizing db with
  | nil => exact catalog
  | cons write rest ih => exact ih (catalog.after write)

/-- **The index is in sync along a sequence of writes exactly when none of them strays.** -/
theorem inSync_along_iff {db : Database} (catalog : IsCatalog db) (sync : InSync db)
    (writes : List Write) :
    (∀ done rest, writes = done ++ rest → InSync (db.afterAll done)) ↔
      ∀ done write rest, writes = done ++ write :: rest → ¬ Strays (db.afterAll done) write := by
  constructor
  · intro along done write rest whole
    have before := along done (write :: rest) whole
    have after := along (done ++ [write]) rest (by simp [whole])
    rw [Database.afterAll_append] at after
    exact (inSync_after_iff (catalog.afterAll done) before write).1 after
  · intro straight done
    induction done using List.reverseRecOn with
    | nil => exact fun _ _ => sync
    | append_singleton done write ih =>
        intro rest whole
        have whole' : writes = done ++ write :: rest := by simp [whole]
        have before := ih (write :: rest) whole'
        rw [Database.afterAll_append]
        exact (inSync_after_iff (catalog.afterAll done) before write).2
          (straight done write rest whole')

end CatalogListing
