/-
# Proofs.Listing.Stability -- pages of listings

A listing is in the order of the sortable fields that its request asks for, and of the
primary key when it asks for none.  This order is strict on all contents of the table
exactly when the primary key is among the fields, and then the pages of the listing are
stable (`pages_stable_if_ordered_by_key`).  Ordered by another field, rows with the same
value tie, and two pages may have the same row and miss another
(`genrePages_repeat_a_book`).
-/
import CatalogListing.Proofs.Listing.Narrowing
import CatalogListing.Proofs.Store.Page
import CatalogListing.Proofs.Store.Resources

namespace CatalogListing

set_option autoImplicit false

/-! ## The order of a request -/

/-- The sortable fields that a request orders by. -/
def sortedFields (resource : Resource) (pairs : List Pair) : List OrderTerm :=
  ((Parameters.valuesOf orderKey pairs).filterMap OrderTerm.ofText?).filter
    fun term => resource.isSortable term.field

/-- The request orders by the primary key, maybe after other fields, or by nothing. -/
def OrdersByKey (resource : Resource) (pairs : List Pair) : Prop :=
  sortedFields resource pairs = [] ∨
    ∃ term ∈ sortedFields resource pairs, term.field = resource.primaryKey

/-- The terms of a request: its sortable fields, or the primary key. -/
theorem orderFor_ofPairs (resource : Resource) (pairs : List Pair) (bounds : PageBounds) :
    Selection.orderFor resource (Parameters.ofPairs pairs bounds).order =
      if sortedFields resource pairs = [] then [⟨resource.primaryKey, false⟩]
      else sortedFields resource pairs := by
  have asked : ((Parameters.ofPairs pairs bounds).order.filter fun term =>
      resource.isSortable term.field) = sortedFields resource pairs := rfl
  rw [Selection.orderFor, asked]
  cases sortedFields resource pairs <;> rfl

theorem key_mem_orderFor_iff (resource : Resource) (pairs : List Pair) (bounds : PageBounds) :
    (∃ term ∈ Selection.orderFor resource (Parameters.ofPairs pairs bounds).order,
      term.field = resource.primaryKey) ↔ OrdersByKey resource pairs := by
  rw [orderFor_ofPairs, OrdersByKey]
  by_cases nothing : sortedFields resource pairs = [] <;> simp [nothing]

/-! ## Rows that only their key tells apart -/

/-- Two authors, two books of one of them and two reviews of one of these, alike but for
their keys. -/
def writesOfTwins : List Write :=
  [1, 2].flatMap fun key => [
    .insert Tables.authors.name [("id", .integer key), ("name", .text "A"),
      ("created_at", .text "2024-01-01")],
    .insert Tables.books.name [("id", .integer key), ("author_id", .integer 1),
      ("title", .text "B"), ("price", .integer 1), ("published_at", .text "2024-01-01")],
    .insert Tables.reviews.name [("id", .integer key), ("book_id", .integer 1),
      ("reviewer", .text "C"), ("rating", .integer 5), ("created_at", .text "2024-01-01")]]

/-- The rows of a table are two, alike but for their keys. -/
def isTwins (table : Table) : Bool :=
  match table.rows with
  | [x, y] => x.key != y.key && x.cells == y.cells
  | _ => false

theorem isTwins_of_listed : ∀ resource ∈ Catalog.resources,
    ((emptyCatalog.afterAll writesOfTwins).table? resource.table).map isTwins = some true := by
  rw [emptyCatalog, Migration.run_empty]
  decide +kernel

/-- Without the key among them, no terms tell the twins apart. -/
theorem not_ordersStrictly_of_twins {table : Table} (twins : isTwins table = true)
    {terms : List OrderTerm} (keyless : ∀ term ∈ terms, term.field ≠ table.schema.key) :
    ¬ OrdersStrictly table.schema terms table.rows := by
  unfold isTwins at twins
  split at twins
  · rename_i x y rows
    simp only [Bool.and_eq_true, bne_iff_ne, ne_eq, beq_iff_eq] at twins
    obtain ⟨apart, same⟩ := twins
    rw [ordersStrictly_iff, rows]
    intro strict
    have equal := strict x (by simp) y (by simp) fun term member => by
      refine OrderTerm.ties_of_value_eq ?_
      simp only [Row.value, if_neg (keyless term member), Row.cell, same]
    exact apart (congrArg Row.key equal)
  · cases twins

/-! ## Stable pages -/

/-- **Pages are stable if the primary key is among the fields ordered by.**  The order of a
request is strict on every contents of its table exactly when the request names the
primary key or no sortable field at all.  Wherever it is strict on the matching rows, any
two answers have the same pages, and pages that follow each other have every matching
row once. -/
theorem pages_stable_if_ordered_by_key {resource : Resource}
    (listed : resource ∈ Catalog.resources) (now : Instant) (pairs : List Pair)
    (bounds : PageBounds) {parameters : Parameters}
    (applied : Window.apply now resource (.ofPairs pairs bounds) = .ok parameters) :
    let selection := Selection.ofParameters resource parameters
    (OrdersByKey resource pairs ↔ ∀ db, Reachable db → ∀ table,
      db.table? resource.table = some table →
        OrdersStrictly table.schema selection.order table.rows) ∧
    ∀ db, Reachable db → ∀ table, db.table? resource.table = some table →
      (OrdersByKey resource pairs →
        OrdersStrictly table.schema selection.order (selection.matching db table)) ∧
      (OrdersStrictly table.schema selection.order (selection.matching db table) →
        selection.Stable db table) := by
  obtain ⟨-, rfl⟩ := (Window.apply_eq_ok_iff _ _ _ _ _).1 applied
  intro selection
  have order : selection.order =
      Selection.orderFor resource (Parameters.ofPairs pairs bounds).order := rfl
  have byKey := key_mem_orderFor_iff resource pairs bounds
  rw [← order] at byKey
  have strict : OrdersByKey resource pairs → ∀ db, Reachable db → ∀ table,
      db.table? resource.table = some table →
        OrdersStrictly table.schema selection.order table.rows := by
    intro ordered db reachable table found
    obtain ⟨term, member, isKey⟩ := byKey.2 ordered
    have unique := reachable.isCatalog.unique table (Database.mem_of_table? found)
    have keeps := reachable.isCatalog.keeps_of_table? listed found
    exact ordersStrictly_of_key unique member (isKey.trans keeps.2.1.symm)
  refine ⟨⟨strict, fun always => byKey.1 ?_⟩, fun db reachable table found => ⟨?_, ?_⟩⟩
  · -- On a table of twins the terms have to name the key.
    apply Classical.byContradiction
    intro keyless
    have reachable := reachable_emptyCatalog writesOfTwins
    obtain ⟨table, found, twins⟩ := Option.map_eq_some_iff.1 (isTwins_of_listed resource listed)
    have keeps := reachable.isCatalog.keeps_of_table? listed found
    refine not_ordersStrictly_of_twins twins (fun term member isKey => keyless ?_)
      (always _ reachable table found)
    exact ⟨term, member, isKey.trans keeps.2.1⟩
  · exact fun ordered =>
      (strict ordered db reachable table found).of_subset (List.filter_subset_self _)
  · exact Selection.stable_of_ordersStrictly
      (reachable.isCatalog.unique table (Database.mem_of_table? found))

/-- Books by their genre and, within a genre, the later ones first, each on a page. -/
def genreThenKeyRequest : List Pair :=
  [("order_by", "genre"), ("order_by", "-id"), ("limit", "1")]

/-- Two books of a genre have stable pages when the key comes after the genre. -/
theorem genreThenKey_pages_are_stable :
    Catalog.books ∈ Catalog.resources ∧
      ∃ parameters, Window.apply 0 Catalog.books (.ofPairs genreThenKeyRequest .standard) =
        .ok parameters ∧
      ∃ table, (emptyCatalog.afterAll writesOfBooks).table? Tables.books.name = some table ∧
        table.keys = [3, 4] ∧
        (Selection.ofParameters Catalog.books parameters).Stable
          (emptyCatalog.afterAll writesOfBooks) table := by
  have listed : Catalog.books ∈ Catalog.resources := by decide
  have applied := (Window.apply_eq_ok_iff 0 Catalog.books genreThenKeyRequest .standard _).2
    ⟨by decide +kernel, rfl⟩
  have byKey : OrdersByKey Catalog.books genreThenKeyRequest :=
    Or.inr ⟨⟨"id", true⟩, by decide +kernel, rfl⟩
  have keys : ((emptyCatalog.afterAll writesOfBooks).table? Tables.books.name).map Table.keys =
      some [3, 4] := by
    rw [emptyCatalog, Migration.run_empty]
    decide +kernel
  obtain ⟨-, stable⟩ := pages_stable_if_ordered_by_key listed 0 genreThenKeyRequest .standard applied
  obtain ⟨table, found, two⟩ := Option.map_eq_some_iff.1 keys
  obtain ⟨strict, stable⟩ := stable _ (reachable_emptyCatalog writesOfBooks) table found
  exact ⟨listed, _, applied, table, found, two, stable (strict byKey)⟩

/-- Books by their genre, each on a page. -/
def genrePagesRequest : List Pair :=
  [("order_by", "genre"), ("limit", "1")]

/-- Two books of a genre may come in either order.  If the answer to the request for the
second page has them in the other order than the answer to the first, one book is on
both pages and the other on none. -/
theorem genrePages_repeat_a_book :
    Catalog.books ∈ Catalog.resources ∧ Reachable (emptyCatalog.afterAll writesOfBooks) ∧
      ∃ parameters, Window.apply 0 Catalog.books (.ofPairs genrePagesRequest .standard) =
        .ok parameters ∧
      ∃ table, (emptyCatalog.afterAll writesOfBooks).table? Tables.books.name = some table ∧
        let selection := Selection.ofParameters Catalog.books parameters
        let db := emptyCatalog.afterAll writesOfBooks
        ¬ OrdersStrictly table.schema selection.order (selection.matching db table) ∧
          ∃ first second, selection.Answers db table first ∧ selection.Answers db table second ∧
            (selection.matching db table).map (·.key) = [3, 4] ∧
            (window selection.limit 0 first).map (·.key) = [3] ∧
            (window selection.limit selection.limit second).map (·.key) = [3] := by
  refine ⟨by decide, reachable_emptyCatalog _, _, rfl, ?_⟩
  generalize isSelected : Selection.ofParameters Catalog.books
    (Parameters.ofPairs genrePagesRequest .standard) = selection
  have limit : selection.limit = 1 := by rw [← isSelected]; decide +kernel
  have facts : ((emptyCatalog.afterAll writesOfBooks).table? Tables.books.name).map
      (fun table =>
        let rows := selection.matching (emptyCatalog.afterAll writesOfBooks) table
        let before := fun x y => standsBefore table.schema selection.order x y = true
        (rows.map (·.key), decide (rows.Pairwise before), decide (rows.reverse.Pairwise before))) =
      some (([3, 4], true, true) : List Int × Bool × Bool) := by
    rw [← isSelected, emptyCatalog, Migration.run_empty]
    decide +kernel
  generalize emptyCatalog.afterAll writesOfBooks = db at facts ⊢
  obtain ⟨table, found, facts⟩ := Option.map_eq_some_iff.1 facts
  simp only [Prod.mk.injEq, decide_eq_true_eq, standsBefore_iff] at facts
  obtain ⟨keys, forth, back⟩ := facts
  have first : selection.Answers db table (selection.matching db table) := ⟨.refl _, forth⟩
  have second : selection.Answers db table (selection.matching db table).reverse :=
    ⟨List.reverse_perm _, back⟩
  refine ⟨table, found, fun strict => ?_, _, _, first, second, keys, ?_, ?_⟩
  · -- Strictly ordered, the books could not come in both orders.
    have same := congrArg (List.map (·.key)) (first.unique second strict)
    rw [List.map_reverse, keys] at same
    exact absurd same (by decide)
  · rw [limit, window, List.map_take, List.map_drop, keys]
    rfl
  · rw [limit, window, List.map_take, List.map_drop, List.map_reverse, keys]
    rfl

end CatalogListing
