/-
# Proofs.Listing.Convergence -- listings after an upgrade

A listing reads the tables of the catalog and what the index finds in them, and nothing
else of a database (`Alike.list_eq`).  So a database that a run brought to the present
version answers every request as a new one with the same rows does
(`upgrade_preserves_and_converges`).

A database that was at the present version already keeps its index.  If that had lost a
book, the run does not find it again (`moved_book_stays_lost`).
-/
import CatalogListing.Proofs.Listing.Limits
import CatalogListing.Proofs.Listing.TitleListing
import CatalogListing.Proofs.Store.Upgrade

namespace CatalogListing

set_option autoImplicit false

open Migration (run record stepRow reviewIndexes fullText initialSql)

/-! ## What a listing reads -/

theorem schema_of_listed : ∀ resource ∈ Catalog.resources,
    ∃ schema ∈ catalogSchemas, schema.name = resource.table := by
  decide

theorem schema_of_association : ∀ resource ∈ Catalog.resources,
    ∀ association ∈ resource.associations,
      ∃ schema ∈ catalogSchemas, schema.name = association.table := by
  decide

namespace Database.Alike

variable {db other : Database} {resource : Resource}

theorem requireTable_eq (alike : db.Alike other) {name : Text}
    (known : ∃ schema ∈ catalogSchemas, schema.name = name) :
    db.requireTable name = other.requireTable name := by
  obtain ⟨schema, listed, rfl⟩ := known
  rw [requireTable, requireTable, alike.tables schema listed]

theorem outcome_eq (alike : db.Alike other) : RowTest.outcome db = RowTest.outcome other := by
  funext schema row test
  cases test with
  | column => rfl
  | indexed => simp only [RowTest.outcome, alike.finds]

theorem wants_eq (alike : db.Alike other) (selection : Selection) :
    selection.wants db = selection.wants other := by
  have test := alike.outcome_eq
  have clause : Filter.Clause.outcome db = Filter.Clause.outcome other := by
    funext schema row clause
    simp only [Filter.Clause.outcome, test]
  have custom : customOutcome db = customOutcome other := by
    funext schema row clause parameters
    simp only [customOutcome, test]
  funext schema row
  simp only [Selection.wants, Selection.outcome, clause, custom]

theorem attachAll_eq (alike : db.Alike other) (listed : resource ∈ Catalog.resources)
    (schema : Schema) (rows : List Row) (names : List Text) :
    db.attachAll resource schema rows names = other.attachAll resource schema rows names := by
  have attach_eq (association : Association) (known : association ∈ resource.associations)
      (records : List Record) :
      attach db schema rows association records = attach other schema rows association records := by
    have requires :=
      alike.requireTable_eq (schema_of_association resource listed association known)
    unfold attach Association.attachments
    rw [requires]
  unfold attachAll
  generalize rows.map (fun row => row.record schema) = records
  have known : ∀ association ∈ names.filterMap resource.association?,
      association ∈ resource.associations := by
    intro association member
    obtain ⟨name, -, found⟩ := List.mem_filterMap.1 member
    exact List.mem_of_find?_eq_some found
  generalize names.filterMap resource.association? = associations at known
  -- Each association adds to the records that those before it left.
  induction associations generalizing records with
  | nil => rfl
  | cons association rest ih =>
      obtain ⟨here, later⟩ := List.forall_mem_cons.1 known
      rw [List.foldlM_cons, List.foldlM_cons, attach_eq association here]
      exact congrArg (Except.bind _) (funext fun records => ih records later)

theorem fetch_eq (alike : db.Alike other) (scan : Scan) {selection : Selection}
    (listed : selection.resource ∈ Catalog.resources) (names : List Text) :
    db.fetch scan selection names = other.fetch scan selection names := by
  have requires := alike.requireTable_eq (schema_of_listed _ listed)
  have indexes : selection.requireIndexes db = selection.requireIndexes other := by
    simp only [Selection.requireIndexes, alike.index]
  have matching : selection.matching db = selection.matching other := by
    funext table
    simp only [Selection.matching, alike.wants_eq]
  have page : selection.page scan db = selection.page scan other := by
    funext table
    simp only [Selection.page, Selection.sorted, matching]
  have tests : selection.requireTests scan db = selection.requireTests scan other := by
    funext table
    simp only [Selection.requireTests, Selection.reached, alike.outcome_eq]
  unfold fetch
  simp only [requires, indexes, tests, matching, page, alike.attachAll_eq listed]

/-- **Databases that are alike have the same listings.** -/
theorem list_eq (alike : db.Alike other) (inFile isOpen : Bool) (scan : Scan)
    (bounds : PageBounds) (now : Instant) (name : Text) (pairs : List Pair) :
    (⟨⟨db, inFile, isOpen, scan⟩, bounds⟩ : ListingService).list now name pairs =
      (⟨⟨other, inFile, isOpen, scan⟩, bounds⟩ : ListingService).list now name pairs := by
  unfold ListingService.list
  cases found : Catalog.find? name with
  | none => rfl
  | some resource =>
      have listed : resource ∈ Catalog.resources := List.mem_of_find?_eq_some found
      have page (parameters : Parameters) :
          (⟨⟨db, inFile, isOpen, scan⟩, bounds⟩ : ListingService).page resource parameters =
            (⟨⟨other, inFile, isOpen, scan⟩, bounds⟩ : ListingService).page resource parameters := by
        have fetched : db.fetch scan (.ofParameters resource parameters) parameters.preload =
            other.fetch scan (.ofParameters resource parameters) parameters.preload :=
          alike.fetch_eq scan listed parameters.preload
        simp only [ListingService.page, Store.fetch, Store.read, fetched]
      simp only [page]

end Database.Alike

/-! ## Upgrades -/

/-- **An upgrade preserves the rows and converges.**  A database that is empty, or was left at
any version with rows that its tables admit, is brought to the present version by a run
that completes; every row of the catalog is left, and the ledger has the three versions
with their names and digests.  All of its rows can be copied into a new database, and in
whatever order they went in, every request has the same listing on both.  Only a database
that was left at the present version has to have its index in sync for that. -/
theorem upgrade_preserves_and_converges {version : Int} {db : Database}
    (left : LeftAt version db) (admitted : db.Admitted) (clock : Migration.Clock) :
    ∃ next, run clock db = (next, .ok ()) ∧
      (∀ schema ∈ catalogSchemas, next.rowsOf schema.name = db.rowsOf schema.name) ∧
      (∃ first second third : Migration.Clock, record next = .ok ⟨some (.integer 3),
        [stepRow first 1 "initial_schema" (Sha256.hexDigest initialSql),
          stepRow second 2 "add_review_indexes" reviewIndexes.checksum,
          stepRow third 3 "add_books_full_text" fullText.checksum]⟩) ∧
      ∀ again : Migration.Clock,
        (∃ copy, (run again {}).1.copyInto db.catalogRows = .ok copy) ∧
        ((version = 3 → InSync db) → ∀ order copy, order.Perm db.catalogRows →
          (run again {}).1.copyInto order = .ok copy →
          ∀ inFile isOpen scan bounds now name pairs,
            (⟨⟨next, inFile, isOpen, scan⟩, bounds⟩ : ListingService).list now name pairs =
              (⟨⟨copy, inFile, isOpen, scan⟩, bounds⟩ : ListingService).list now name pairs) := by
  obtain ⟨next, ran, present, syncs, rows⟩ := exists_run_of_leftAt left clock
  refine ⟨next, ran, rows, present.record, fun again => ⟨?_, ?_⟩⟩
  · have new : ∀ schema ∈ catalogSchemas, (run again {}).1.rowsOf schema.name = [] := by
      rw [Migration.run_empty]
      exact forall_catalogSchemas rfl rfl rfl
    exact exists_copyInto admitted (Migrated.fresh again).keeps.1 new
  · intro sync order copy all done
    exact (present.alike_copy (syncs sync) admitted rows again all done).list_eq

/-- An author with a book about dragons, under some key. -/
def dragonRows (key : Int) : Migration.Rows where
  authors := [⟨1, [("name", .text "A"), ("country", .null), ("bio", .null), ("active", .integer 1),
    ("born_at", .null), ("created_at", .text "2024-01-01")]⟩]
  books := [⟨key, [("author_id", .integer 1), ("title", .text "Dragon Tales"), ("genre", .null),
    ("price", .real (Binary64.ofInt 1)), ("pages", .null), ("in_stock", .integer 1),
    ("isbn", .null), ("published_at", .text "2024-01-01")]⟩]

/-- A database of the version before, which knows no index. -/
def unindexed : Database :=
  Migration.catalogOf [Migration.versionRow {} 2 reviewIndexes.name]
    [Migration.firstRow {}, Migration.secondRow {}] (dragonRows 7) Migration.reviewerIndexes false none

/-- The total of a listing of books. -/
def totalOf (db : Database) (pairs : List Pair) : Option Nat :=
  match (serviceOver db).list 0 Catalog.books.name pairs with
  | .ok (.ok listing) => some listing.total
  | _ => none

/-- Its book is found once it is upgraded, as in the copy. -/
theorem unindexed_book_is_found :
    LeftAt 2 unindexed ∧ unindexed.Admitted ∧ ∃ next copy, run {} unindexed = (next, .ok ()) ∧
      (run {} {}).1.copyInto unindexed.catalogRows = .ok copy ∧
      totalOf next (titleRequest "dragon") = some 1 := by
  have left : LeftAt 2 unindexed := .second {} {} _
  have admitted : unindexed.Admitted := by decide +kernel
  obtain ⟨next, ran, -, -, converges⟩ := upgrade_preserves_and_converges left admitted {}
  obtain ⟨⟨copy, copied⟩, same⟩ := converges {}
  have listed := same (fun isThree => absurd isThree (by decide)) _ copy (.refl _) copied
  have found : ((run {} {}).1.copyInto unindexed.catalogRows).map
      (fun copy => totalOf copy (titleRequest "dragon")) = .ok (some 1) := by
    rw [Migration.run_empty]
    decide +kernel
  rw [copied] at found
  refine ⟨left, admitted, next, copy, ran, copied, ?_⟩
  rw [totalOf, serviceOver, listed]
  exact Except.ok.inj found

/-- A database at the present version in which the book has moved from another key. -/
def movedCatalog : Database :=
  Migration.catalogOf [Migration.versionRow {} 3 fullText.name]
    [Migration.firstRow {}, Migration.secondRow {}, Migration.thirdRow {}] (dragonRows 8)
    Migration.reviewerIndexes true
      (some [⟨7, Search.wordBytes "dragon", 0⟩, ⟨7, Search.wordBytes "tales", 1⟩])

set_option maxRecDepth 8000 in
theorem movedCatalog_eq : movedCatalog = emptyCatalog.afterAll writesOfMove := by
  rw [emptyCatalog, Migration.run_empty]
  unfold movedCatalog Migration.firstRow Migration.secondRow Migration.thirdRow Migration.third
  generalize Sha256.hexDigest initialSql = first
  generalize reviewIndexes.checksum = digest
  generalize fullText.checksum = last
  rfl

/-- A write has moved the book without naming its title, and no run tells the index: the book
is not found, though it is found in the copy. -/
theorem moved_book_stays_lost :
    LeftAt 3 movedCatalog ∧ movedCatalog = emptyCatalog.afterAll writesOfMove ∧
      movedCatalog.Admitted ∧ run {} movedCatalog = (movedCatalog, .ok ()) ∧
      ∃ copy, (run {} {}).1.copyInto movedCatalog.catalogRows = .ok copy ∧
        totalOf movedCatalog (titleRequest "dragon") = some 0 ∧
        totalOf copy (titleRequest "dragon") = some 1 := by
  have current : Migration.Current movedCatalog := ⟨3, by decide, rfl, rfl⟩
  have found : ((run {} {}).1.copyInto movedCatalog.catalogRows).map
      (fun copy => totalOf copy (titleRequest "dragon")) = .ok (some 1) := by
    rw [Migration.run_empty]
    decide +kernel
  obtain ⟨copy, copied, total⟩ := ok_of_map found
  exact ⟨.third {} {} {} _ _, movedCatalog_eq, by decide +kernel, current.run {}, copy, copied,
    by decide +kernel, total⟩

end CatalogListing
