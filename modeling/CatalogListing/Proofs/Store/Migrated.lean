/-
# Proofs.Store.Migrated -- databases that reached the present version

The last step makes the full-text index from the books that are there and has the books
watched, so a database that takes it has the shape of the catalog and is in sync,
whatever rows it had (`keeps_fullText`).  A new database
takes every step (`run_empty`).
-/
import CatalogListing.Proofs.Store.Sync
import CatalogListing.Store.Migration

namespace CatalogListing

set_option autoImplicit false

open Database (indexEntries)

/-- The rows of a table, and the indexes made on it. -/
abbrev Contents := List Row × List Text

/-- The five tables with some contents, and the index. -/
def catalogWith (versions ledger authors books reviews : Contents) (watched : Bool)
    (index : Option Search.Index) : Database where
  tables := [
    ⟨Tables.schemaVersion, versions.1, versions.2, false⟩,
    ⟨Tables.schemaMigrations, ledger.1, ledger.2, false⟩,
    ⟨Tables.authors, authors.1, authors.2, false⟩,
    ⟨Tables.books, books.1, books.2, watched⟩,
    ⟨Tables.reviews, reviews.1, reviews.2, false⟩]
  index := index

namespace Migration

theorem ok_of_mapError {ε ε' α : Type} {first : Except ε α} {change : ε → ε'} {result : α}
    (done : first.mapError change = .ok result) : first = .ok result := by
  cases first with
  | error fault => cases done
  | ok value => exact congrArg Except.ok (Except.ok.inj done)

/-! ## The last step -/

/-- The index is made from the books, which are watched from then on. -/
theorem make_fullText (versions ledger authors books reviews : Contents) (watched : Bool)
    (index : Option Search.Index) :
    fullText.statements.foldlM
        (fun db statement => (make db statement.making).mapError (failed fullText statement))
        (catalogWith versions ledger authors books reviews watched index) =
      .ok (catalogWith versions ledger authors books reviews true
        (some (Search.build (indexEntries books.1)))) := rfl

variable {clock : Clock} {versions ledger authors books reviews : Contents} {watched : Bool}
  {index : Option Search.Index} {next : Database}

/-- No two rows of a table have the same key. -/
def KeysUnique (db : Database) : Prop :=
  ∀ table ∈ db.tables, table.keys.Nodup

/-- A database that takes the last step has the shape of the catalog and is in sync. -/
theorem keeps_fullText
    (unique : KeysUnique (catalogWith versions ledger authors books reviews watched index))
    (done : apply clock (catalogWith versions ledger authors books reviews watched index)
      fullText = .ok next) : IsCatalog next ∧ InSync next := by
  unfold apply at done
  obtain ⟨made, making, done⟩ := Database.ok_of_bind done
  obtain rfl := Except.ok.inj ((make_fullText _ _ _ _ _ _ _).symm.trans making)
  have catalog : IsCatalog (catalogWith versions ledger authors books reviews true
      (some (Search.build (indexEntries books.1)))) := by
    refine ⟨rfl, ?_, rfl⟩
    intro table member
    simp only [KeysUnique, catalogWith, List.forall_mem_cons] at unique
    obtain ⟨first, second, third, fourth, fifth, -⟩ := unique
    simp only [catalogWith, List.mem_cons, List.not_mem_nil, or_false] at member
    rcases member with rfl | rfl | rfl | rfl | rfl
    · exact first
    · exact second
    · exact third
    · exact fourth
    · exact fifth
  have sync : InSync (catalogWith versions ledger authors books reviews true
      (some (Search.build (indexEntries books.1)))) := ⟨_, _, rfl, rfl, .refl _⟩
  obtain ⟨⟨versioned, count⟩, updating, done⟩ := Database.ok_of_bind done
  have update := Database.updated (ok_of_mapError updating)
  have versionedCatalog := update.isCatalog catalog
  have versionedSync := update.inSync_of_ne catalog sync (by decide)
  obtain ⟨table, row, inserted⟩ := Database.exists_inserted (ok_of_mapError done)
  exact ⟨inserted.isCatalog versionedCatalog, inserted.inSync versionedCatalog versionedSync⟩

/-! ## All steps -/

/-- The record of a version. -/
def versionRow (clock : Clock) (version : Int) (description : Text) : Row :=
  ⟨1, [("version", .integer version), ("applied_at", .integer clock.now),
    ("description", .text description)]⟩

/-- The record of a step. -/
def stepRow (clock : Clock) (version : Int) (name checksum : Text) : Row :=
  ⟨version, [("name", .text name), ("applied_at", .integer clock.now),
    ("checksum", .text checksum), ("execution_time_ms", .integer clock.elapsed),
    ("success", .integer 1)]⟩

/-! ## Databases with the record of a version -/

/-- The row of the first version. -/
def firstRow (clock : Clock) : Row :=
  stepRow clock 1 "initial_schema" (Sha256.hexDigest initialSql)

/-- The row of the step to the second version. -/
def secondRow (clock : Clock) : Row :=
  stepRow clock 2 reviewIndexes.name reviewIndexes.checksum

/-- The row of the step to the third version. -/
def thirdRow (clock : Clock) : Row :=
  stepRow clock 3 fullText.name fullText.checksum

/-- The indexes that the second version makes on reviews. -/
def reviewerIndexes : List Text :=
  ["idx_reviews_reviewer", "idx_reviews_created"]

/-- The rows of the catalog. -/
structure Rows where
  authors : List Row := []
  books : List Row := []
  reviews : List Row := []

/-- A database with some versions and a ledger, the rows of a catalog, and the indexes made on
reviews. -/
def catalogOf (versions ledger : List Row) (rows : Rows) (reviewIndexes : List Text)
    (watched : Bool) (index : Option Search.Index) : Database :=
  catalogWith (versions, []) (ledger, []) (rows.authors, ["idx_authors_country"])
    (rows.books, ["idx_books_author", "idx_books_genre", "idx_books_published"])
    (rows.reviews, "idx_reviews_book" :: reviewIndexes) watched index

/-- A new database at some version: its record, and nothing else. -/
def newDatabase (clock : Clock) (version : Int) (description : Text) (steps : List Row)
    (reviewIndexes : List Text) (watched : Bool) (index : Option Search.Index) : Database :=
  catalogWith ([versionRow clock version description], []) (steps, [])
    ([], ["idx_authors_country"])
    ([], ["idx_books_author", "idx_books_genre", "idx_books_published"])
    ([], "idx_reviews_book" :: reviewIndexes) watched index

/-- The new database with the tables of the first version. -/
def first (clock : Clock) : Database :=
  newDatabase clock 1 "Initial schema"
    [stepRow clock 1 "initial_schema" (Sha256.hexDigest initialSql)] [] false none

/-- The new database with the indexes of the second version. -/
def second (clock : Clock) : Database :=
  newDatabase clock 2 "add_review_indexes"
    [stepRow clock 1 "initial_schema" (Sha256.hexDigest initialSql),
      stepRow clock 2 "add_review_indexes" reviewIndexes.checksum]
    ["idx_reviews_reviewer", "idx_reviews_created"] false none

/-- The new database at the present version. -/
def third (clock : Clock) : Database :=
  newDatabase clock 3 "add_books_full_text"
    [stepRow clock 1 "initial_schema" (Sha256.hexDigest initialSql),
      stepRow clock 2 "add_review_indexes" reviewIndexes.checksum,
      stepRow clock 3 "add_books_full_text" fullText.checksum]
    ["idx_reviews_reviewer", "idx_reviews_created"] true (some [])

-- The digests are left alone: no requirement on a row looks into them.

set_option maxRecDepth 4000 in
theorem firstVersion_empty (clock : Clock) : firstVersion clock {} = .ok (first clock) := by
  unfold firstVersion first
  generalize Sha256.hexDigest initialSql = digest
  rfl

set_option maxRecDepth 4000 in
/-- A database at the first version, with any rows, takes the step to the second. -/
theorem apply_reviewIndexes_catalogOf (clock before : Clock) (rows : Rows) :
    apply clock (catalogOf [versionRow before 1 "Initial schema"] [firstRow before] rows [] false
        none) reviewIndexes =
      .ok (catalogOf [versionRow clock 2 reviewIndexes.name] [firstRow before, secondRow clock]
        rows reviewerIndexes false none) := by
  unfold apply firstRow secondRow
  generalize Sha256.hexDigest initialSql = first
  generalize reviewIndexes.checksum = digest
  rfl

set_option maxRecDepth 4000 in
/-- A database at the second version takes the last step; its index is made from its books. -/
theorem apply_fullText_catalogOf (clock before later : Clock) (rows : Rows) :
    apply clock (catalogOf [versionRow later 2 reviewIndexes.name]
        [firstRow before, secondRow later] rows reviewerIndexes false none) fullText =
      .ok (catalogOf [versionRow clock 3 fullText.name]
        [firstRow before, secondRow later, thirdRow clock] rows reviewerIndexes true
        (some (Search.build (indexEntries rows.books)))) := by
  unfold apply firstRow secondRow thirdRow
  generalize Sha256.hexDigest initialSql = first
  generalize reviewIndexes.checksum = digest
  generalize fullText.checksum = last
  rfl

theorem apply_reviewIndexes (clock : Clock) :
    apply clock (first clock) reviewIndexes = .ok (second clock) :=
  apply_reviewIndexes_catalogOf clock clock {}

theorem apply_fullText (clock : Clock) :
    apply clock (second clock) fullText = .ok (third clock) :=
  apply_fullText_catalogOf clock clock clock {}

/-- A new database takes every step. -/
theorem run_empty (clock : Clock) : run clock {} = (third clock, .ok ()) := by
  have version : recordedVersion (first clock) = .ok 1 := rfl
  have steps : later.filter (fun migration => (1 : Int) < migration.version) =
      [reviewIndexes, fullText] := rfl
  have new : (({} : Database).hasTable Tables.schemaVersion.name) = false := rfl
  unfold run advance
  rw [new, firstVersion_empty]
  simp only [Bool.false_eq_true, if_false, version, steps]
  simp [currentVersion, applyAll, apply_reviewIndexes, apply_fullText]

end Migration

/-! ## Databases to start from -/

/-- A database that has just reached the present version: a new one, or one of the
version before with any contents. -/
inductive Migrated : Database → Prop where
  | fresh (clock : Migration.Clock) : Migrated (Migration.run clock {}).1
  | upgraded {clock : Migration.Clock} {versions ledger authors books reviews : Contents}
      {next : Database} :
      Migration.KeysUnique (catalogWith versions ledger authors books reviews false none) →
      Migration.apply clock (catalogWith versions ledger authors books reviews false none)
        Migration.fullText = .ok next → Migrated next

/-- A database that is new and has taken every step. -/
def emptyCatalog : Database :=
  (Migration.run {} {}).1

theorem Migrated.keeps {db : Database} (migrated : Migrated db) : IsCatalog db ∧ InSync db := by
  cases migrated with
  | fresh clock =>
      rw [Migration.run_empty]
      refine Migration.keeps_fullText ?_ (Migration.apply_fullText clock)
      intro table member
      simp only [catalogWith, List.mem_cons, List.not_mem_nil, or_false] at member
      rcases member with rfl | rfl | rfl | rfl | rfl <;> simp [Table.keys, Migration.stepRow]
  | upgraded unique done => exact Migration.keeps_fullText unique done

/-- A database that writes lead to from one that has just reached the present version. -/
def Reachable (db : Database) : Prop :=
  ∃ start writes, Migrated start ∧ db = start.afterAll writes

theorem Reachable.isCatalog {db : Database} (reachable : Reachable db) : IsCatalog db := by
  obtain ⟨start, writes, migrated, rfl⟩ := reachable
  exact migrated.keeps.1.afterAll writes

theorem reachable_emptyCatalog (writes : List Write) :
    Reachable (emptyCatalog.afterAll writes) :=
  ⟨emptyCatalog, writes, .fresh {}, rfl⟩

end CatalogListing
