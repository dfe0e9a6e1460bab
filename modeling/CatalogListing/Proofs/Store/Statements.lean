/-
# Proofs.Store.Statements -- what a statement that completes has done

Each kind of statement is inverted once: what a completed insertion, deletion or update
found, what it required, and which database it left (`Inserted`, `Deleted`, `Updated`).
Later proofs take these apart and never open the statements again.
-/
import CatalogListing.Store.Database

namespace CatalogListing.Database

set_option autoImplicit false

/-- A sequence that completes has completed its first part. -/
theorem ok_of_bind {ε α β : Type} {first : Except ε α} {later : α → Except ε β} {result : β}
    (done : (first >>= later) = .ok result) :
    ∃ value, first = .ok value ∧ later value = .ok result := by
  cases first with
  | error fault => cases done
  | ok value => exact ⟨value, rfl, done⟩

/-- A sequence with a part that runs only under a condition. -/
theorem ok_of_guarded {ε β : Type} {condition : Prop} [Decidable condition]
    {first : Except ε Unit} {later : Unit → Except ε β} {result : β}
    (done : (if condition then first >>= later else later ()) = .ok result) :
    (condition → first = .ok ()) ∧ later () = .ok result := by
  by_cases holds : condition
  · rw [if_pos holds] at done
    obtain ⟨⟨⟩, completes, done⟩ := ok_of_bind done
    exact ⟨fun _ => completes, done⟩
  · rw [if_neg holds] at done
    exact ⟨fun condition => absurd condition holds, done⟩

/-- A check of every element completes when each of them does. -/
theorem forM_eq_ok_iff {α ε : Type} {list : List α} {check : α → Except ε Unit} :
    list.forM check = .ok () ↔ ∀ one ∈ list, check one = .ok () := by
  induction list with
  | nil => exact ⟨fun _ _ member => (List.not_mem_nil member).elim, fun _ => rfl⟩
  | cons first rest ih =>
      rw [List.forall_mem_cons, ← ih]
      change Except.bind (check first) (fun _ => rest.forM check) = .ok () ↔ _
      cases check first with
      | error fault =>
          refine ⟨fun done => ?_, fun both => ?_⟩
          · cases done
          · cases both.1
      | ok value => exact ⟨fun done => ⟨rfl, done⟩, fun both => both.2⟩

theorem table?_of_requireTable {db : Database} {name : Text} {table : Table}
    (done : db.requireTable name = .ok table) : db.table? name = some table := by
  unfold requireTable at done
  split at done
  · cases done
    assumption
  · cases done

theorem fresh_of_requireFreshKey {table : Table} {key : Int}
    (done : requireFreshKey table key = .ok ()) : table.hasKey key = false := by
  unfold requireFreshKey at done
  split at done
  · cases done
  · rename_i fresh
    simpa using fresh

theorem refers_of_requireReferences {db : Database} {references : List Reference} {row : Row}
    (done : db.requireReferences references row = .ok ()) :
    ∀ reference ∈ references, db.refers reference row = true := by
  unfold requireReferences at done
  split at done
  · rename_i all
    exact List.all_eq_true.1 all
  · cases done

/-! ## Insertions -/

/-- What an insertion that completes has done. -/
structure Inserted (db : Database) (name : Text) (given : List (Text × Scalar)) (next : Database)
    (table : Table) (row : Row) : Prop where
  found : db.table? name = some table
  cells : row.cells = table.schema.columns.map (cellOf given)
  values : requireValues table row = .ok ()
  checks : requireChecks table row = .ok ()
  fresh : table.hasKey row.key = false
  unique : requireUnique table row = .ok ()
  result : next = (db.withTable (table.add row)).indexAdded table row
  references : ∀ reference ∈ table.schema.references, next.refers reference row = true
  keyed : keyOf table ((given.lookup table.schema.key).getD .null) = .ok row.key

theorem exists_inserted {db next : Database} {name : Text} {given : List (Text × Scalar)}
    (done : db.insert name given = .ok next) :
    ∃ table row, Inserted db name given next table row := by
  unfold insert at done
  obtain ⟨table, found, done⟩ := ok_of_bind done
  obtain ⟨-, -, done⟩ := ok_of_bind done
  obtain ⟨-, -, done⟩ := ok_of_bind done
  obtain ⟨-, -, done⟩ := ok_of_bind done
  obtain ⟨key, keyed, done⟩ := ok_of_bind done
  obtain ⟨⟨⟩, values, done⟩ := ok_of_bind done
  obtain ⟨⟨⟩, checks, done⟩ := ok_of_bind done
  obtain ⟨⟨⟩, fresh, done⟩ := ok_of_bind done
  obtain ⟨⟨⟩, unique, done⟩ := ok_of_bind done
  obtain ⟨⟨⟩, references, done⟩ := ok_of_bind done
  cases done
  exact ⟨table, _, table?_of_requireTable found, rfl, values, checks,
    fresh_of_requireFreshKey fresh, unique, rfl, refers_of_requireReferences references, keyed⟩

/-! ## Deletions -/

/-- What a deletion that completes has done: the row went with those that refer to it, or
there was none. -/
inductive Deleted (db : Database) (name : Text) (key : Int) (table : Table) : Database → Prop where
  | row : db.table? name = some table → table.hasKey key = true →
      Deleted db name key table (cascade db.tables.length db name [key])
  | nothing : db.table? name = some table → table.hasKey key = false → Deleted db name key table db

theorem exists_deleted {db next : Database} {name : Text} {key : Int} {count : Nat}
    (done : db.delete name key = .ok (next, count)) : ∃ table, Deleted db name key table next := by
  unfold delete at done
  obtain ⟨table, found, done⟩ := ok_of_bind done
  obtain ⟨-, -, done⟩ := ok_of_bind done
  obtain ⟨-, -, done⟩ := ok_of_bind done
  obtain ⟨-, -, done⟩ := ok_of_bind done
  obtain ⟨-, -, done⟩ := ok_of_bind done
  split at done
  · rename_i present
    cases done
    exact ⟨table, .row (table?_of_requireTable found) present⟩
  · rename_i absent
    cases done
    exact ⟨table, .nothing (table?_of_requireTable found) (by simpa using absent)⟩

/-! ## Updates -/

/-- The changes name the indexed column, so the index is told. -/
def tellsIndex (changes : List (Text × Scalar)) : Bool :=
  changes.any fun change => change.1 == indexedColumn

/-- What an update that completes has done to a row. -/
structure Replaced (db : Database) (name : Text) (key : Int) (changes : List (Text × Scalar))
    (next : Database) (table : Table) (old new : Row) : Prop where
  found : db.table? name = some table
  row : table.row? key = some old
  newKey : updatedKey table old changes = .ok new.key
  cells : new.cells = updatedCells table old changes
  values : requireValues table new = .ok ()
  checks : requireChecks table new = .ok ()
  fresh : (table.without [old.key]).hasKey new.key = false
  unique : requireUnique (table.without [old.key]) new = .ok ()
  result : next = db.replaceRow table old new (tellsIndex changes)

/-- What an update that completes has done: a row was replaced, or there was none. -/
inductive Updated (db : Database) (name : Text) (key : Int) (changes : List (Text × Scalar)) :
    Database → Prop where
  | row {next : Database} {table : Table} {old new : Row} :
      Replaced db name key changes next table old new → Updated db name key changes next
  | nothing {table : Table} :
      db.table? name = some table → table.row? key = none → Updated db name key changes db

theorem updated {db next : Database} {name : Text} {key : Int} {changes : List (Text × Scalar)}
    {count : Nat} (done : db.update name key changes = .ok (next, count)) :
    Updated db name key changes next := by
  unfold update at done
  obtain ⟨table, found, done⟩ := ok_of_bind done
  obtain ⟨-, -, done⟩ := ok_of_bind done
  obtain ⟨-, -, done⟩ := ok_of_bind done
  obtain ⟨-, -, done⟩ := ok_of_bind done
  obtain ⟨-, done⟩ := ok_of_guarded done
  split at done
  · rename_i absent
    cases done
    exact .nothing (table?_of_requireTable found) absent
  · rename_i old present
    obtain ⟨newKey, keyed, done⟩ := ok_of_bind done
    obtain ⟨⟨⟩, values, done⟩ := ok_of_bind done
    obtain ⟨⟨⟩, checks, done⟩ := ok_of_bind done
    obtain ⟨⟨⟩, fresh, done⟩ := ok_of_bind done
    obtain ⟨⟨⟩, unique, done⟩ := ok_of_bind done
    obtain ⟨⟨⟩, -, done⟩ := ok_of_bind done
    obtain ⟨-, done⟩ := ok_of_guarded done
    cases done
    exact .row ⟨table?_of_requireTable found, present, keyed, rfl, values, checks,
      fresh_of_requireFreshKey fresh, unique, rfl⟩

end CatalogListing.Database
