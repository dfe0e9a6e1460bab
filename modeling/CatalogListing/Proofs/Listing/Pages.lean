/-
# Proofs.Listing.Pages -- the pages of a request

A listing that succeeds comes from two statements, one for the page and one for the
count, that share their condition and its arguments.  Its total counts the rows of the
table that satisfy the condition, evaluated from its text and those arguments; its rows are such rows, no two the same, as many as
the limit allows from the offset on, in the order that the request asks for.  So the
total is the same for every page of a request, and the pages have as many rows together
(`listing_is_page_of_satisfying_rows`).
-/
import Mathlib.Tactic.IntervalCases
import CatalogListing.Proofs.Listing.Limits

namespace CatalogListing

set_option autoImplicit false

open Parameters (AgreeBut)

/-- The pages of a request have as many rows together as they reach. -/
theorem ListingService.sum_length_pages {resource : Resource}
    (listed : resource ∈ Catalog.resources) {service : ListingService}
    (catalog : IsCatalog service.store.database) {table : Table}
    (found : service.store.database.table? resource.table = some table) {now : Instant}
    {pairs : List Pair} (count : Nat) {requests : Nat → List Pair} {listings : Nat → Listing}
    (pages : ∀ n < count, AgreeBut [offsetKey] pairs (requests n) ∧
      service.list now resource.name (requests n) = .ok (.ok (listings n)) ∧
      (listings n).offset = n * (service.selectionOf now resource pairs).limit) :
    ((List.range count).map fun n => (listings n).rows.length).sum =
      min ((service.selectionOf now resource pairs).matching service.store.database table).length
        (count * (service.selectionOf now resource pairs).limit) := by
  have lengths : ∀ n ∈ List.range count, (listings n).rows.length =
      (window (service.selectionOf now resource pairs).limit
        (n * (service.selectionOf now resource pairs).limit)
        ((service.selectionOf now resource pairs).matching service.store.database table)).length := by
    intro n member
    obtain ⟨agree, answered, offset⟩ := pages n (List.mem_range.1 member)
    obtain ⟨-, -, -, -, answer⟩ := (list_eq_ok_iff listed catalog found _).1 answered
    have rows : (listings n).rows.length =
        ((service.selectionOf now resource (requests n)).page service.store.scan
          service.store.database table).length := by
      rw [answer]
      exact List.length_map _
    have start : (service.selectionOf now resource (requests n)).offset =
        n * (service.selectionOf now resource pairs).limit := by
      rw [← offset, answer]
      rfl
    rw [rows, Selection.length_page, start, limit_of_agree agree,
      matching_of_agree (agree.of_mem (by decide)), length_window]
  rw [List.map_congr_left lengths, sum_length_window]

/-- **A listing is a page of the rows that satisfy its condition.**  The condition has the
outcome that its text has with the arguments bound to it.  The total is the count of the rows
that satisfy it, whatever the page; its own rows are different ones of them, in the order
asked for, as many as the limit allows from the offset on; and the pages of a request
have as many rows together as they reach. -/
theorem listing_is_page_of_satisfying_rows {resource : Resource}
    (listed : resource ∈ Catalog.resources) (service : ListingService)
    (reachable : Reachable service.store.database) (now : Instant) (pairs : List Pair)
    {listing : Listing} (answered : service.list now resource.name pairs = .ok (.ok listing)) :
    ∃ parameters table,
      Window.apply now resource (.ofPairs pairs service.bounds) = .ok parameters ∧
      service.store.database.table? resource.table = some table ∧
      let db := service.store.database
      let selection := Selection.ofParameters resource parameters
      let condition := selection.predicate.expand.sql
      (selection.plan.sql = pageSql selection condition ∧
        selection.plan.countSql = totalSql selection condition) ∧
      (∀ row, Sql.Expanded.outcome? ⟨condition, selection.plan.arguments⟩ db table.schema row =
        some (selection.outcome db table.schema row)) ∧
      listing.total =
        table.rows.countP (fun row => selection.outcome db table.schema row == some true) ∧
      (∀ others other, AgreeBut reservedKeys pairs others →
        service.list now resource.name others = .ok (.ok other) → other.total = listing.total) ∧
      (∃ page : List Row,
        listing.rows = page.map (fullRecord db table.schema page
          (resource.named parameters.preload)) ∧
        page.Nodup ∧
        (∀ row ∈ page, row ∈ table.rows ∧ selection.outcome db table.schema row = some true) ∧
        page.length = min listing.limit (listing.total - listing.offset) ∧
        page.Pairwise (InOrder table.schema selection.order) ∧
        (sortedFields resource pairs ≠ [] → selection.order = sortedFields resource pairs)) ∧
      ∀ count (requests : Nat → List Pair) (listings : Nat → Listing),
        (∀ n < count, AgreeBut [offsetKey] pairs (requests n) ∧
          service.list now resource.name (requests n) = .ok (.ok (listings n)) ∧
          (listings n).offset = n * listing.limit) →
        ((List.range count).map fun n => (listings n).rows.length).sum =
          min listing.total (count * listing.limit) := by
  have catalog := reachable.isCatalog
  obtain ⟨table, found, -⟩ := catalog.exists_resource_table listed
  obtain ⟨inCalendar, -, -, -, rfl⟩ := (ListingService.list_eq_ok_iff listed catalog found _).1 answered
  refine ⟨_, table, (Window.apply_eq_ok_iff _ _ _ _ _).2 ⟨inCalendar, rfl⟩, found, ?_⟩
  intro db selection condition
  have unique := catalog.unique table (Database.mem_of_table? found)
  have keeps := catalog.keeps_of_table? listed found
  refine ⟨plan_eq rfl, fun row => service.outcome?_selectionOf now listed pairs keeps db row,
    List.countP_eq_length_filter.symm, ?_, ?_, ?_⟩
  · intro others other agree answered'
    obtain ⟨-, -, -, -, rfl⟩ := (ListingService.list_eq_ok_iff listed catalog found _).1 answered'
    exact congrArg List.length (ListingService.matching_of_agree agree db table)
  · let scan := service.store.scan
    refine ⟨selection.page scan db table, rfl, selection.nodup_page scan db unique,
      fun row member => ?_, selection.length_page scan db table,
      selection.inOrder_page scan db table, fun asks => ?_⟩
    · obtain ⟨inTable, wanted⟩ := List.mem_filter.1 (Selection.mem_matching_of_mem_page member)
      exact ⟨inTable, beq_iff_eq.1 wanted⟩
    · exact (orderFor_ofPairs resource pairs service.bounds).trans (if_neg asks)
  · intro count requests listings pages
    exact ListingService.sum_length_pages listed catalog found count pages

/-- Books of a genre, the later ones first, with their author. -/
def fantasyRequest : List Pair :=
  [("genre", "fantasy"), ("order_by", "-id"), ("limit", "1"), ("populate", "Author")]

/-- One of their pages, each of one book. -/
def fantasyPage (n : Nat) : List Pair :=
  fantasyRequest ++ [(offsetKey, Text.ofNat n)]

theorem agree_fantasyPage (n : Nat) : AgreeBut [offsetKey] (fantasyPage 0) (fantasyPage n) := by
  intro key other
  have apart : offsetKey ≠ key := fun same => other (same ▸ List.mem_cons_self)
  rw [fantasyPage, fantasyPage, Parameters.valuesOf_append, Parameters.valuesOf_append,
    Parameters.valuesOf_cons, Parameters.valuesOf_cons, if_neg apart, if_neg apart]

theorem calm_fantasyPage (n : Nat) : Calm Catalog.books (fantasyPage n) := by
  have form : Filter.classify "fantasy" = some (.compare .equal (.text "fantasy")) := by
    decide +kernel
  intro pair member free usable condition accepted
  simp only [fantasyPage, fantasyRequest, List.cons_append, List.nil_append, List.mem_cons,
    List.not_mem_nil, or_false] at member
  rcases member with rfl | rfl | rfl | rfl | rfl
  · obtain rfl := Option.some.inj (form.symm.trans accepted)
    trivial
  · exact absurd (by decide : orderKey ∈ reservedKeys) free
  · exact absurd (by decide : limitKey ∈ reservedKeys) free
  · exact absurd (by decide : populateKey ∈ reservedKeys) free
  · exact absurd (by decide : offsetKey ∈ reservedKeys) free

/-- Its pages are within the limits, so they are answered in every catalog. -/
theorem answered_fantasyPage {db : Database} (catalog : IsCatalog db) {table : Table}
    (found : db.table? Catalog.books.table = some table) {n : Nat} (small : n < 2) :
    (serviceOver db).list 0 Catalog.books.name (fantasyPage n) =
      .ok (.ok ((serviceOver db).answer 0 Catalog.books (fantasyPage n) table)) := by
  have fits : ((serviceOver db).selectionOf 0 Catalog.books (fantasyPage n)).Fits := by
    change (Selection.ofParameters Catalog.books
      (Window.served 0 Catalog.books (fantasyPage n) .standard)).Fits
    interval_cases n
    · exact ⟨by decide +kernel, by decide +kernel, by decide +kernel⟩
    · exact ⟨by decide +kernel, by decide +kernel, by decide +kernel⟩
  exact ListingService.list_of_fits (by decide) rfl configurable_standard catalog found rfl fits
    (calm_fantasyPage n)

/-- Two books are of the genre. -/
theorem count_fantasyPage :
    ((emptyCatalog.afterAll writesOfBooks).table? Tables.books.name).map (fun table =>
      ((Selection.ofParameters Catalog.books
        (Window.served 0 Catalog.books (fantasyPage 0) .standard)).matching
          (emptyCatalog.afterAll writesOfBooks) table).length) = some 2 := by
  rw [emptyCatalog, Migration.run_empty]
  decide +kernel

/-- The two books of the genre are on two pages. -/
theorem fantasyPages_have_two_books :
    Catalog.books ∈ Catalog.resources ∧ Reachable (emptyCatalog.afterAll writesOfBooks) ∧
      ∃ listings : Nat → Listing,
        (∀ n < 2, (serviceOver (emptyCatalog.afterAll writesOfBooks)).list 0 Catalog.books.name
          (fantasyPage n) = .ok (.ok (listings n))) ∧
        (listings 0).total = 2 ∧
        ((List.range 2).map fun n => (listings n).rows.length).sum = 2 := by
  have listed : Catalog.books ∈ Catalog.resources := by decide
  have reachable := reachable_emptyCatalog writesOfBooks
  have count := count_fantasyPage
  generalize emptyCatalog.afterAll writesOfBooks = db at reachable count ⊢
  obtain ⟨table, found, count⟩ := Option.map_eq_some_iff.1 count
  have offsets : ∀ n < 2, PageBounds.offset (Parameters.valuesOf offsetKey (fantasyPage n)).head? =
      n * PageBounds.standard.limit (Parameters.valuesOf limitKey (fantasyPage 0)).head? := by
    decide +kernel
  have answers : ∀ n < 2, (serviceOver db).list 0 Catalog.books.name (fantasyPage n) =
      .ok (.ok ((serviceOver db).answer 0 Catalog.books (fantasyPage n) table)) :=
    fun n small => answered_fantasyPage reachable.isCatalog found small
  obtain ⟨-, -, -, -, -, -, -, -, -, pages⟩ := listing_is_page_of_satisfying_rows listed
    (serviceOver db) reachable 0 (fantasyPage 0) (answers 0 (by decide))
  have sum := pages 2 fantasyPage (fun n => (serviceOver db).answer 0 Catalog.books (fantasyPage n) table)
    fun n small => ⟨agree_fantasyPage n, answers n small, offsets n small⟩
  refine ⟨listed, reachable, _, answers, count, sum.trans ?_⟩
  change min ((Selection.ofParameters Catalog.books
    (Window.served 0 Catalog.books (fantasyPage 0) .standard)).matching db table).length
    (2 * PageBounds.standard.limit (Parameters.valuesOf limitKey (fantasyPage 0)).head?) = 2
  rw [count]
  decide +kernel

end CatalogListing
