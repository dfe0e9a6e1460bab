/-
# Proofs.Store.KeyOrder -- rows in the order of their keys

The rows of a table stand in ascending order of their keys.  An inserted row is put in its
place, and rows that go leave the others as they stood, so every write keeps all tables of
a database in order (`InOrder.afterAll`).
-/
import CatalogListing.Proofs.Store.Frame
import CatalogListing.Proofs.Store.Migrated

namespace CatalogListing

set_option autoImplicit false

/-! ## One table -/

namespace Table

/-- Every row has a smaller key than those behind it. -/
def InOrder (table : Table) : Prop :=
  table.rows.Pairwise fun row later => row.key < later.key

theorem mem_insertRow {row other : Row} {rows : List Row} :
    other ∈ insertRow row rows ↔ other = row ∨ other ∈ rows := by
  rw [(insertRow_perm row rows).mem_iff, List.mem_cons]

/-- A row with a key of its own is put in its place. -/
theorem pairwise_insertRow {row : Row} {rows : List Row}
    (ordered : rows.Pairwise fun row later => row.key < later.key)
    (apart : ∀ other ∈ rows, other.key ≠ row.key) :
    (insertRow row rows).Pairwise fun row later => row.key < later.key := by
  induction rows with
  | nil => exact List.pairwise_singleton _ _
  | cons first rest ih =>
      obtain ⟨before, later⟩ := List.pairwise_cons.1 ordered
      obtain ⟨here, apart⟩ := List.forall_mem_cons.1 apart
      rw [insertRow]
      split
      · rename_i less
        refine List.pairwise_cons.2 ⟨fun other member => ?_, ordered⟩
        rcases List.mem_cons.1 member with rfl | inRest
        · exact less
        · exact Int.lt_trans less (before other inRest)
      · rename_i notLess
        refine List.pairwise_cons.2 ⟨fun other member => ?_, ih later apart⟩
        rcases mem_insertRow.1 member with rfl | inRest
        · omega
        · exact before other inRest

theorem InOrder.add {table : Table} (ordered : table.InOrder) {row : Row}
    (fresh : table.hasKey row.key = false) : (table.add row).InOrder :=
  pairwise_insertRow ordered fun _ member same =>
    key_notMem fresh (same ▸ List.mem_map_of_mem member)

theorem InOrder.without {table : Table} (ordered : table.InOrder) (keys : List Int) :
    (table.without keys).InOrder :=
  ordered.filter _

end Table

/-! ## All tables -/

namespace Database

/-- The rows of every table stand in the order of their keys. -/
def InOrder (db : Database) : Prop :=
  ∀ table ∈ db.tables, table.InOrder

variable {db next : Database} {name : Text} {table : Table}

theorem InOrder.of_table? (ordered : db.InOrder) (found : db.table? name = some table) :
    table.InOrder :=
  ordered table (mem_of_table? found)

theorem InOrder.of_tables (ordered : db.InOrder) (same : next.tables = db.tables) :
    next.InOrder := by
  unfold InOrder
  rwa [same]

theorem InOrder.withTable (ordered : db.InOrder) (new : table.InOrder) :
    (db.withTable table).InOrder := by
  intro other member
  rcases mem_withTable member with rfl | before
  · exact new
  · exact ordered other before

theorem InOrder.removeRows (ordered : db.InOrder) (found : db.table? name = some table)
    (keys : List Int) : (db.removeRows table keys).InOrder := by
  have without := ordered.withTable ((ordered.of_table? found).without keys)
  refine without.of_tables ?_
  unfold Database.removeRows
  rw [foldl_indexRemoved]
  split <;> rfl

theorem Inserted.inOrder {given : List (Text × Scalar)} {row : Row}
    (done : Inserted db name given next table row) (ordered : db.InOrder) : next.InOrder := by
  have added := ordered.withTable ((ordered.of_table? done.found).add done.fresh)
  refine added.of_tables ?_
  rw [done.result, tables_indexAdded]

theorem Deleted.inOrder {key : Int} (done : Deleted db name key table next)
    (ordered : db.InOrder) : next.InOrder := by
  cases done with
  | nothing found absent => exact ordered
  | row found present =>
      exact cascade_induction (fun _ _ _ keys found kept => kept.removeRows found keys) _ ordered _ _

theorem Updated.inOrder {key : Int} {changes : List (Text × Scalar)}
    (done : Updated db name key changes next) (ordered : db.InOrder) : next.InOrder := by
  cases done with
  | nothing found absent => exact ordered
  | @row _ table old new replaced =>
      have others := (ordered.of_table? replaced.found).without [old.key]
      have added := ordered.withTable (others.add replaced.fresh)
      refine added.of_tables ?_
      rw [replaced.result, tables_replaceRow]

/-- **A write leaves the rows in order.** -/
theorem InOrder.after (ordered : db.InOrder) (write : Write) : (db.after write).InOrder := by
  unfold Database.after
  split
  · rename_i next done
    cases write with
    | insert name given =>
        obtain ⟨table, row, inserted⟩ := exists_inserted done
        exact inserted.inOrder ordered
    | update name key changes =>
        obtain ⟨⟨_, count⟩, completed, rfl⟩ := ok_of_map done
        exact (updated completed).inOrder ordered
    | delete name key =>
        obtain ⟨⟨_, count⟩, completed, rfl⟩ := ok_of_map done
        obtain ⟨table, deleted⟩ := exists_deleted completed
        exact deleted.inOrder ordered
  · exact ordered

theorem InOrder.afterAll (ordered : db.InOrder) (writes : List Write) :
    (db.afterAll writes).InOrder := by
  induction writes generalizing db with
  | nil => exact ordered
  | cons write rest ih => exact ih (ordered.after write)

end Database

/-- A new database that has taken every step is in order. -/
theorem Migration.inOrder_third (clock : Clock) : (third clock).InOrder := by
  intro table member
  simp only [third, newDatabase, catalogWith, List.mem_cons, List.not_mem_nil, or_false] at member
  rcases member with rfl | rfl | rfl | rfl | rfl <;> simp [Table.InOrder, stepRow]

/-- A database that writes lead to from one that has just reached the present version, and
that held its rows in the order of their keys then. -/
def ReachableInOrder (db : Database) : Prop :=
  ∃ start writes, Migrated start ∧ start.InOrder ∧ db = start.afterAll writes

theorem ReachableInOrder.isCatalog {db : Database} (reachable : ReachableInOrder db) :
    IsCatalog db := by
  obtain ⟨start, writes, migrated, -, rfl⟩ := reachable
  exact migrated.keeps.1.afterAll writes

theorem ReachableInOrder.inOrder {db : Database} (reachable : ReachableInOrder db) :
    db.InOrder := by
  obtain ⟨start, writes, -, ordered, rfl⟩ := reachable
  exact ordered.afterAll writes

theorem reachableInOrder_emptyCatalog (writes : List Write) :
    ReachableInOrder (emptyCatalog.afterAll writes) := by
  refine ⟨emptyCatalog, writes, .fresh {}, ?_, rfl⟩
  rw [emptyCatalog, Migration.run_empty]
  exact Migration.inOrder_third {}

end CatalogListing
