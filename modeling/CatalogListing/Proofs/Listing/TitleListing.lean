/-
# Proofs.Listing.TitleListing -- listings of books by the words of their titles

A request for books by the words of a title is answered by the store with one search
of the full-text index.  The index tracks the books from the migration on, through
every sequence of writes, up to the first write that strays
(`index_tracks_books_until_straying`); as long as it does, the listing has exactly the
books whose title has the terms of the request.  One update of a key alone is enough to
lose a book (`search_misses_moved_book`).
-/
import CatalogListing.Proofs.Store.Fetch
import CatalogListing.Proofs.Store.Migrated
import CatalogListing.Proofs.Store.TitleSearch
import CatalogListing.Listing.Service

namespace CatalogListing

set_option autoImplicit false

/-! ## The answer to a search -/

theorem requireSize_titleSelection (bounds : PageBounds) (text : Text) :
    (titleSelection bounds text).requireSize = .ok () := by
  have custom : (titleSelection bounds text).custom = [] := rfl
  have width : (titleSelection bounds text).predicate.width ≤ 1 := by
    unfold Sql.Predicate.width Selection.predicate Filter.predicateOf
    rw [clauses_titleSelection, custom]
    cases FullText.query? text with
    | none => exact Nat.zero_le 1
    | some query => exact Nat.le_refl 1
  have depth : (titleSelection bounds text).depth ≤ 5 := by
    unfold Selection.depth Selection.ownDepth Selection.tests
    rw [clauses_titleSelection, custom]
    cases FullText.query? text with
    | none => exact Nat.zero_le 5
    | some query => exact Nat.le_refl 5
  unfold Selection.requireSize
  rw [if_neg (by unfold maxArguments; omega), if_neg (by unfold maxDepth; omega)]

theorem tests_titleSelection (bounds : PageBounds) (text : Text) :
    (titleSelection bounds text).tests = (FullText.query? text).toList.map titleTest := by
  unfold Selection.tests
  rw [clauses_titleSelection]
  cases FullText.query? text <;> rfl

/-- A listing is refused or answered by what running its tests does. -/
theorem fetch_titleSelection (scan : Scan) {db : Database} (catalog : IsCatalog db) {table : Table}
    (found : db.table? Tables.books.name = some table) (bounds : PageBounds) (text : Text) :
    db.fetch scan (titleSelection bounds text) [] =
      ((titleSelection bounds text).requireTests scan db table).map fun _ =>
        ⟨((titleSelection bounds text).page scan db table).map fun row => row.record table.schema,
          ((titleSelection bounds text).matching db table).length⟩ := by
  have requires : db.requireTable (titleSelection bounds text).resource.table = .ok table := by
    have name : (titleSelection bounds text).resource.table = Tables.books.name := rfl
    rw [name, Database.requireTable, found]
  have indexes : (titleSelection bounds text).requireIndexes db = .ok () := by
    unfold Selection.requireIndexes
    rw [tests_titleSelection]
    cases FullText.query? text with
    | none => rfl
    | some query =>
        simp only [Option.toList_some, List.map_cons, List.map_nil, List.filterMap_cons,
          List.filterMap_nil, titleTest, RowTest.index?, catalog.index, if_true]
        rfl
  have order : (titleSelection bounds text).requireOrder = .ok () := rfl
  unfold Database.fetch
  rw [requireSize_titleSelection, requires]
  simp only [bind, Except.bind, indexes, order]
  cases (titleSelection bounds text).requireTests scan db table <;> rfl

variable {scan : Scan} {db : Database} {table : Table}

/-- A search is run, whatever way the database has of going through rows. -/
theorem reached_titleSelection {text query : Text} (asks : FullText.query? text = some query)
    (bounds : PageBounds) :
    (titleSelection bounds text).reached scan db table = [titleTest query] := by
  have tests := tests_titleSelection bounds text
  rw [asks] at tests
  have custom : (titleSelection bounds text).custom = [] := rfl
  unfold Selection.reached
  rw [tests, custom]
  rfl

/-- Running the one test of the request. -/
theorem requireTests_titleSelection {text query : Text}
    (asks : FullText.query? text = some query) (bounds : PageBounds) :
    (titleSelection bounds text).requireTests scan db table =
      (titleTest query).fault?.elim (.ok ()) .error := by
  unfold Selection.requireTests
  rw [reached_titleSelection asks]
  change Except.bind ((titleTest query).fault?.elim (Except.ok ()) Except.error)
    (fun _ => Except.ok ()) = _
  cases (titleTest query).fault? <;> rfl

theorem requireTests_of_clean {text : Text} (clean : ∀ c ∈ text, Search.goesOn c = true)
    (bounds : PageBounds) :
    (titleSelection bounds text).requireTests scan db table = .ok () := by
  have asks := query?_eq text
  by_cases none_ : FullText.terms text = []
  · rw [if_pos none_] at asks
    refine Database.forM_eq_ok_iff.2 fun test member => ?_
    have foreign := Selection.reached_subset_tests member
    rw [tests_titleSelection, asks] at foreign
    cases foreign
  · have phrases := Search.phrases_of_clean (goesOn_terms clean)
    rw [if_neg none_] at asks
    rw [requireTests_titleSelection asks]
    simp [titleTest, RowTest.fault?, phrases]

/-- A search for a text with a NUL ends inside of quotes. -/
theorem requireTests_of_nul {text : Text} (nul : ∃ c ∈ text, Search.goesOn c = false)
    (bounds : PageBounds) :
    (titleSelection bounds text).requireTests scan db table =
      .error (.rejected 1 "unterminated string") := by
  have inTerm := exists_term_of_nul nul
  have some_ : FullText.terms text ≠ [] := by
    obtain ⟨term, member, -⟩ := inTerm
    exact List.ne_nil_of_mem member
  have phrases := Search.phrases_of_nul inTerm
  have asks := query?_eq text
  rw [if_neg some_] at asks
  rw [requireTests_titleSelection asks]
  simp only [titleTest, RowTest.fault?, phrases, Option.elim_some]

/-- The answer to the request: the page of books that it selects, and their count. -/
def titleListing (scan : Scan) (db : Database) (table : Table) (bounds : PageBounds)
    (text : Text) : Listing where
  rows := ((titleSelection bounds text).page scan db table).map fun row => row.record table.schema
  total := ((titleSelection bounds text).matching db table).length
  limit := bounds.defaultLimit
  offset := 0

theorem list_titleRequest {service : ListingService} (isOpen : service.store.isOpen = true)
    (catalog : IsCatalog service.store.database) {table : Table}
    (found : service.store.database.table? Tables.books.name = some table) (now : Instant)
    (text : Text) :
    service.list now Catalog.books.name (titleRequest text) =
      .ok (match (titleSelection service.bounds text).requireTests service.store.scan
          service.store.database table with
        | .ok () => .ok (titleListing service.store.scan service.store.database table service.bounds
            text)
        | .error fault => .error (.database fault)) := by
  have resource : Catalog.find? Catalog.books.name = some Catalog.books := by rfl
  have window : Window.apply now Catalog.books (.ofPairs (titleRequest text) service.bounds) =
      .ok (.ofPairs (titleRequest text) service.bounds) := rfl
  have preload : (Parameters.ofPairs (titleRequest text) service.bounds).preload = [] := rfl
  have selects : Selection.ofParameters Catalog.books
      (.ofPairs (titleRequest text) service.bounds) = titleSelection service.bounds text := rfl
  unfold ListingService.list
  rw [resource]
  simp only [window, bind, Except.bind, ListingService.page, preload, Store.fetch, Store.read,
    isOpen, if_true, selects, fetch_titleSelection service.store.scan catalog found]
  cases (titleSelection service.bounds text).requireTests service.store.scan
    service.store.database table <;> rfl

/-- A search of an index in sync selects the books whose title has the terms. -/
theorem matching_titleSelection {db : Database} (catalog : IsCatalog db) {table : Table}
    {index : Search.Index} (found : db.table? Tables.books.name = some table)
    (present : db.index = some index)
    (follows : Search.Follows index (Database.indexEntries table.rows)) (bounds : PageBounds)
    {text : Text} (clean : '\x00' ∉ text) :
    (titleSelection bounds text).matching db table =
      table.rows.filter fun row => HasTerms text (Database.indexedText row) := by
  have unique := catalog.unique table (Database.mem_of_table? found)
  have goes := Search.goesOn_of_notMem clean
  refine List.filter_congr fun row member => ?_
  have wants := wants_titleSelection present unique follows bounds goes member
  rw [Bool.eq_iff_iff, wants, decide_eq_true_iff]

/-! ## Tracking -/

/-- **The index tracks the books until a write strays, and a search finds them.**  From a
database that has just been migrated, the index is in sync along a sequence of writes
exactly when none of them moves a titled book without naming its title.  Where it is in
sync, the listing for the words of a title has the books whose title has the terms; a
text with a NUL has no listing, but a failure of the database. -/
theorem index_tracks_books_until_straying {db : Database} (migrated : Migrated db)
    (writes : List Write) :
    ((∀ done rest, writes = done ++ rest → InSync (db.afterAll done)) ↔
      ∀ done write rest, writes = done ++ write :: rest → ¬ Strays (db.afterAll done) write) ∧
    (InSync (db.afterAll writes) → ∀ (service : ListingService) (now : Instant) (text : Text),
      service.store.isOpen = true → service.store.database = db.afterAll writes →
      ∃ table, (db.afterAll writes).table? Tables.books.name = some table ∧
        ('\x00' ∉ text →
          service.list now Catalog.books.name (titleRequest text) =
            .ok (.ok (titleListing service.store.scan (db.afterAll writes) table service.bounds
              text)) ∧
          (titleSelection service.bounds text).matching (db.afterAll writes) table =
            table.rows.filter fun row => HasTerms text (Database.indexedText row)) ∧
        ('\x00' ∈ text →
          service.list now Catalog.books.name (titleRequest text) =
            .ok (.error (.database (.rejected 1 "unterminated string"))))) := by
  obtain ⟨catalog, sync⟩ := migrated.keeps
  refine ⟨inSync_along_iff catalog sync writes, ?_⟩
  intro after service now text isOpen same
  have catalogAfter := catalog.afterAll writes
  obtain ⟨table, index, found, present, follows⟩ := after
  have answer := list_titleRequest isOpen (same ▸ catalogAfter) (same ▸ found) now text
  rw [same] at answer
  refine ⟨table, found, fun clean => ⟨?_, ?_⟩, fun nul => ?_⟩
  · rw [answer, requireTests_of_clean (Search.goesOn_of_notMem clean)]
  · exact matching_titleSelection catalogAfter found present follows service.bounds clean
  · have ends : ∃ c ∈ text, Search.goesOn c = false := ⟨_, nul, rfl⟩
    rw [answer, requireTests_of_nul ends]

/-- Two authors come with a book each, and one author goes, which takes the book along. -/
def writesOfAuthors : List Write :=
  [.insert Tables.authors.name [("id", .integer 1), ("name", .text "A"),
      ("created_at", .text "2024-01-01")],
    .insert Tables.books.name [("id", .integer 7), ("author_id", .integer 1),
      ("title", .text "Dragon Tales"), ("price", .integer 1), ("published_at", .text "2024-01-01")],
    .insert Tables.authors.name [("id", .integer 2), ("name", .text "B"),
      ("created_at", .text "2024-01-01")],
    .insert Tables.books.name [("id", .integer 9), ("author_id", .integer 2),
      ("title", .text "Dragon Songs"), ("price", .integer 1), ("published_at", .text "2024-01-01")],
    .delete Tables.authors.name 2]

/-- Neither insertions nor deletions stray, so the search finds the book that is left. -/
theorem search_finds_book_left_over :
    Migrated emptyCatalog ∧ InSync (emptyCatalog.afterAll writesOfAuthors) ∧
      ∃ table, (emptyCatalog.afterAll writesOfAuthors).table? Tables.books.name = some table ∧
        ((titleSelection .standard "dragon").matching (emptyCatalog.afterAll writesOfAuthors)
          table).map (·.key) = [7] := by
  have migrated : Migrated emptyCatalog := .fresh {}
  obtain ⟨along, searches⟩ := index_tracks_books_until_straying migrated writesOfAuthors
  have straight : ∀ done write rest, writesOfAuthors = done ++ write :: rest →
      ¬ Strays (emptyCatalog.afterAll done) write := by
    intro done write rest whole strays
    have member : write ∈ writesOfAuthors := by simp [whole]
    simp only [writesOfAuthors, List.mem_cons, List.not_mem_nil, or_false] at member
    rcases member with rfl | rfl | rfl | rfl | rfl <;> exact strays
  have sync := along.2 straight writesOfAuthors [] (List.append_nil _).symm
  have left : ((emptyCatalog.afterAll writesOfAuthors).table? Tables.books.name).map
      (fun table => (table.rows.filter fun row =>
        HasTerms "dragon" (Database.indexedText row)).map (·.key)) = some [7] := by
    rw [emptyCatalog, Migration.run_empty]
    decide +kernel
  generalize emptyCatalog.afterAll writesOfAuthors = after at searches sync left ⊢
  obtain ⟨table, found, clean, -⟩ :=
    searches sync ⟨{ database := after }, .standard⟩ 0 "dragon" rfl rfl
  rw [found] at left
  refine ⟨migrated, sync, table, found, ?_⟩
  rw [(clean (by decide)).2]
  exact Option.some.inj left

/-- A book comes and is moved to another key. -/
def writesOfMove : List Write :=
  [.insert Tables.authors.name [("id", .integer 1), ("name", .text "A"),
      ("created_at", .text "2024-01-01")],
    .insert Tables.books.name [("id", .integer 7), ("author_id", .integer 1),
      ("title", .text "Dragon Tales"), ("price", .integer 1), ("published_at", .text "2024-01-01")],
    .update Tables.books.name 7 [("id", .integer 8)]]

/-- The index goes on holding the title under the key that is gone, and the search finds
nothing though the title has the term. -/
theorem search_misses_moved_book :
    Migrated emptyCatalog ∧ ¬ InSync (emptyCatalog.afterAll writesOfMove) ∧
      ∃ table, (emptyCatalog.afterAll writesOfMove).table? Tables.books.name = some table ∧
        (titleSelection .standard "dragon").matching (emptyCatalog.afterAll writesOfMove) table =
          [] ∧
        (table.rows.filter fun row => HasTerms "dragon" (Database.indexedText row)).map (·.key) =
          [8] := by
  have books : ((emptyCatalog.afterAll writesOfMove).table? Tables.books.name).map
      (fun table => (Database.indexEntries table.rows,
        (titleSelection .standard "dragon").matching (emptyCatalog.afterAll writesOfMove) table,
        (table.rows.filter fun row => HasTerms "dragon" (Database.indexedText row)).map
          (·.key))) =
      some (([(8, "Dragon Tales")], [], [8]) : List (Int × Text) × List Row × List Int) := by
    rw [emptyCatalog, Migration.run_empty]
    decide +kernel
  have index : (emptyCatalog.afterAll writesOfMove).index =
      some [⟨7, Search.wordBytes "dragon", 0⟩, ⟨7, Search.wordBytes "tales", 1⟩] := by
    rw [emptyCatalog, Migration.run_empty]
    decide +kernel
  generalize emptyCatalog.afterAll writesOfMove = after at books index ⊢
  obtain ⟨table, found, facts⟩ := Option.map_eq_some_iff.1 books
  obtain ⟨entries, rest⟩ := Prod.mk.inj facts
  obtain ⟨missed, wanted⟩ := Prod.mk.inj rest
  refine ⟨.fresh {}, ?_, table, found, missed, wanted⟩
  rintro ⟨table', held, found', present, follows⟩
  obtain rfl := Option.some.inj (found.symm.trans found')
  obtain rfl := Option.some.inj (index.symm.trans present)
  rw [entries] at follows
  exact absurd follows (by unfold Search.Follows; decide +kernel)

end CatalogListing
