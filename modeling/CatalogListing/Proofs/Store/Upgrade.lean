/-
# Proofs.Store.Upgrade -- from any version to the present one

A database that is empty, or that was left at a version, has the record of that version
and any rows (`LeftAt`).  A run brings it to the present version with the whole ledger,
and leaves every row (`exists_run_of_leftAt`).

Then it has the tables of a new database into which the same rows were copied, in whatever
order, and an index in sync finds the same as the one there (`LeftAt.alike_copy`).
-/
import CatalogListing.Proofs.Store.Copy
import CatalogListing.Proofs.Store.Settling
import CatalogListing.Store.Match

namespace CatalogListing

set_option autoImplicit false

open Database (indexEntries)
open Migration

/-! ## Databases at a version -/

/-- The databases that are empty, or were left at a version with some rows. -/
inductive LeftAt : Int → Database → Prop where
  | empty : LeftAt 0 {}
  | first (clock : Clock) (rows : Rows) :
      LeftAt 1 (catalogOf [versionRow clock 1 "Initial schema"] [firstRow clock] rows [] false none)
  | second (clock later : Clock) (rows : Rows) :
      LeftAt 2 (catalogOf [versionRow later 2 reviewIndexes.name] [firstRow clock, secondRow later]
        rows reviewerIndexes false none)
  | third (clock later last : Clock) (rows : Rows) (index : Search.Index) :
      LeftAt 3 (catalogOf [versionRow last 3 fullText.name]
        [firstRow clock, secondRow later, thirdRow last] rows reviewerIndexes true (some index))

variable {version : Int} {db next : Database}

/-- **A run brings a database to the present version and leaves every row.**  It makes the
index, unless there is one already. -/
theorem exists_run_of_leftAt (left : LeftAt version db) (clock : Clock) :
    ∃ next, run clock db = (next, .ok ()) ∧ LeftAt 3 next ∧
      ((version = 3 → InSync db) → InSync next) ∧
      ∀ schema ∈ catalogSchemas, next.rowsOf schema.name = db.rowsOf schema.name := by
  have built (clock later last : Clock) (rows : Rows) :
      InSync (catalogOf [versionRow last 3 fullText.name]
        [firstRow clock, secondRow later, thirdRow last] rows reviewerIndexes true
        (some (Search.build (indexEntries rows.books)))) := ⟨_, _, rfl, rfl, .refl _⟩
  cases left with
  | empty =>
      exact ⟨_, run_empty clock, .third clock clock clock {} [],
        fun _ => built clock clock clock {}, forall_catalogSchemas rfl rfl rfl⟩
  | first before rows =>
      have read : recordedVersion (catalogOf [versionRow before 1 "Initial schema"]
        [firstRow before] rows [] false none) = .ok 1 := rfl
      have steps : stepsFrom 1 = [reviewIndexes, fullText] := rfl
      refine ⟨_, ?_, .third before clock clock rows _, fun _ => built before clock clock rows,
        forall_catalogSchemas rfl rfl rfl⟩
      rw [run_eq_applyAll read (by decide), steps]
      simp only [applyAll, apply_reviewIndexes_catalogOf, apply_fullText_catalogOf]
  | second before later rows =>
      have read : recordedVersion (catalogOf [versionRow later 2 reviewIndexes.name]
        [firstRow before, secondRow later] rows reviewerIndexes false none) = .ok 2 := rfl
      have steps : stepsFrom 2 = [fullText] := rfl
      refine ⟨_, ?_, .third before later clock rows _, fun _ => built before later clock rows,
        forall_catalogSchemas rfl rfl rfl⟩
      rw [run_eq_applyAll read (by decide), steps]
      simp only [applyAll, apply_fullText_catalogOf]
  | third before later last rows index =>
      -- There is nothing to do, and the index is the one that was left.
      have current : Current (catalogOf [versionRow last 3 fullText.name]
        [firstRow before, secondRow later, thirdRow last] rows reviewerIndexes true
        (some index)) := ⟨3, by decide, rfl, rfl⟩
      exact ⟨_, current.run clock, .third before later last rows index, fun sync => sync rfl,
        fun _ _ => rfl⟩

theorem LeftAt.record (left : LeftAt 3 db) : ∃ first second third : Clock,
    record db = .ok ⟨some (.integer 3),
      [stepRow first 1 "initial_schema" (Sha256.hexDigest initialSql),
        stepRow second 2 "add_review_indexes" reviewIndexes.checksum,
        stepRow third 3 "add_books_full_text" fullText.checksum]⟩ := by
  cases left with
  | third first second third rows index => exact ⟨first, second, third, rfl⟩

/-! ## Databases that answer alike -/

theorem Search.finds_of_perm {index other : Search.Index} (same : index.Perm other)
    (phrases : List (List Bytes)) (row : Int) : finds index phrases row = finds other phrases row := by
  have contains (posting : Posting) : index.contains posting = other.contains posting := by
    rw [Bool.eq_iff_iff, List.contains_iff_mem, List.contains_iff_mem, same.mem_iff]
  have at_ (phrase : List Bytes) (place : Nat) :
      phraseAt index row place phrase = phraseAt other row place phrase := by
    induction phrase generalizing place with
    | nil => rfl
    | cons word rest ih => rw [phraseAt, phraseAt, contains, ih]
  have holds : holdsPhrase index row = holdsPhrase other row := by
    funext phrase
    simp only [holdsPhrase, at_]
    rw [Bool.eq_iff_iff, List.any_eq_true, List.any_eq_true]
    simp only [same.mem_iff]
  rw [finds, finds, holds]

/-- Two databases have the same tables of the catalog, and their indexes find the same. -/
structure Database.Alike (db other : Database) : Prop where
  tables : ∀ schema ∈ catalogSchemas, db.table? schema.name = other.table? schema.name
  finds : db.finds = other.finds
  index : db.index.isSome = other.index.isSome

/-- Indexes in sync with the same books find the same. -/
theorem alike_of_inSync {other : Database} (sync : InSync db) (syncOther : InSync other)
    (tables : ∀ schema ∈ catalogSchemas, db.table? schema.name = other.table? schema.name) :
    db.Alike other := by
  have books := tables Tables.books (by decide)
  obtain ⟨table, index, found, present, follows⟩ := sync
  obtain ⟨same, held, foundOther, presentOther, followsOther⟩ := syncOther
  obtain rfl := Option.some.inj (found.symm.trans (books.trans foundOther))
  refine ⟨tables, ?_, by simp [present, presentOther]⟩
  funext query key
  unfold Database.finds
  rw [present, presentOther]
  cases Search.phrases query with
  | error fault => rfl
  | ok phrases => exact Search.finds_of_perm (follows.trans followsOther.symm) phrases key

theorem LeftAt.table?_eq (left : LeftAt 3 db) (again : Clock) :
    ∀ schema ∈ catalogSchemas, ∀ table, (run again {}).1.table? schema.name = some table →
      db.table? schema.name = some { table with rows := db.rowsOf schema.name } := by
  rw [run_empty]
  cases left
  refine forall_catalogSchemas ?_ ?_ ?_ <;>
    · intro table found
      obtain rfl := Option.some.inj found
      rfl

/-- **A database at the present version is like a new one with the same rows**, in whatever
order these went in. -/
theorem LeftAt.alike_copy (left : LeftAt 3 next) (sync : InSync next) (admitted : db.Admitted)
    (rows : ∀ schema ∈ catalogSchemas, next.rowsOf schema.name = db.rowsOf schema.name)
    (again : Clock) {order : List (Schema × Row)} (all : order.Perm db.catalogRows)
    {copy : Database} (done : (run again {}).1.copyInto order = .ok copy) : next.Alike copy := by
  have new : ∀ schema ∈ catalogSchemas, (run again {}).1.rowsOf schema.name = [] := by
    rw [run_empty]
    exact forall_catalogSchemas rfl rfl rfl
  have ordered : (run again {}).1.InOrder := by
    rw [run_empty]
    exact inOrder_third again
  obtain ⟨catalog, syncNew⟩ := (Migrated.fresh again).keeps
  have stored : AllStored order := fun one member => admitted.allStored one (all.mem_iff.1 member)
  obtain ⟨-, syncs, -⟩ := keeps_copyInto catalog stored done
  refine alike_of_inSync sync (syncs syncNew) fun schema listed => ?_
  obtain ⟨table, found, -⟩ := catalog.exists_catalogTable listed
  rw [left.table?_eq again schema listed table found, rows schema listed]
  exact (table?_of_copyInto admitted catalog ordered new all done listed found).symm

end CatalogListing
