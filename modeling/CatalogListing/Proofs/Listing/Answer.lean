/-
# Proofs.Listing.Answer -- when a listing succeeds

A listing of a resource succeeds when its store is open, its window starts in the
calendar, its selection runs and its associations are not refused; it then has the page
of the selection and the count of all matching rows (`list_eq_ok_iff`).

Its rows are those of which the condition in its statements is true, evaluated from its text
and the arguments bound to it (`outcome?_selectionOf`).

Requests that have the same values for all keys but the reserved ones match the same
rows, whatever page and order they ask for (`matching_of_agree`).
-/
import CatalogListing.Proofs.Listing.Stability
import CatalogListing.Proofs.Store.Fetch
import CatalogListing.Proofs.Store.Meaning
import CatalogListing.Listing.Service

namespace CatalogListing

set_option autoImplicit false

open Parameters (AgreeBut)

/-! ## When a listing succeeds -/

theorem exists_table_of_association : ∀ resource ∈ Catalog.resources,
    ∀ association ∈ resource.associations,
      ∃ other ∈ Catalog.resources, other.table = association.table := by
  decide

theorem IsCatalog.exists_association_table {db : Database} (catalog : IsCatalog db)
    {resource : Resource} (listed : resource ∈ Catalog.resources) :
    ∀ association ∈ resource.associations,
      ∃ table, db.table? association.table = some table := by
  intro association member
  obtain ⟨other, among, same⟩ := exists_table_of_association resource listed association member
  obtain ⟨table, found, -⟩ := catalog.exists_resource_table among
  exact ⟨table, same ▸ found⟩

namespace ListingService

variable {service : ListingService} {now : Instant} {resource : Resource} {pairs : List Pair}

/-- A listing of a resource is the page of the parameters that reach the store. -/
theorem list_eq (listed : resource ∈ Catalog.resources) :
    service.list now resource.name pairs =
      if Window.isInCalendar now (Window.asked? resource pairs) then
        .ok (service.page resource (Window.served now resource pairs service.bounds))
      else .error .beforeCalendar := by
  unfold list
  rw [Catalog.find?_of_mem listed]
  simp only [Window.apply_ofPairs]
  split <;> rfl

/-- The selection of a request. -/
def selectionOf (service : ListingService) (now : Instant) (resource : Resource)
    (pairs : List Pair) : Selection :=
  .ofParameters resource (Window.served now resource pairs service.bounds)

/-- The page of a request is what the store fetches for its selection. -/
theorem page_served : service.page resource (Window.served now resource pairs service.bounds) =
    match (if service.store.isOpen then service.store.database.fetch service.store.scan
        (service.selectionOf now resource pairs)
        (Parameters.ofPairs pairs service.bounds).preload else .error .closed) with
    | .ok fetched => .ok ⟨fetched.rows, fetched.total,
        (service.selectionOf now resource pairs).limit,
        (service.selectionOf now resource pairs).offset⟩
    | .error fault => .error (.database fault) := rfl

/-- The associations that a request asks for. -/
def asksFor (service : ListingService) (resource : Resource) (pairs : List Pair) :
    List Association :=
  resource.named (Parameters.ofPairs pairs service.bounds).preload

/-- What a request is answered with: its page of a table, and the count of all rows that
match. -/
def answer (service : ListingService) (now : Instant) (resource : Resource) (pairs : List Pair)
    (table : Table) : Listing :=
  let selection := service.selectionOf now resource pairs
  let page := selection.page service.store.scan service.store.database table
  { rows := page.map (fullRecord service.store.database table.schema page
      (service.asksFor resource pairs))
    total := (selection.matching service.store.database table).length
    limit := selection.limit
    offset := selection.offset }

/-- **When a listing succeeds, and with what.** -/
theorem list_eq_ok_iff (listed : resource ∈ Catalog.resources)
    (catalog : IsCatalog service.store.database) {table : Table}
    (found : service.store.database.table? resource.table = some table) (listing : Listing) :
    service.list now resource.name pairs = .ok (.ok listing) ↔
      Window.isInCalendar now (Window.asked? resource pairs) = true ∧
        service.store.isOpen = true ∧
        (service.selectionOf now resource pairs).Runs service.store.scan service.store.database
          table ∧
        Attaches table.schema ((service.selectionOf now resource pairs).page service.store.scan
          service.store.database table) (service.asksFor resource pairs) ∧
        listing = service.answer now resource pairs table := by
  have fetched := Database.fetch_eq_ok_iff service.store.scan
    (service.selectionOf now resource pairs) found (catalog.exists_association_table listed)
    (Parameters.ofPairs pairs service.bounds).preload
  rw [list_eq listed]
  by_cases inCalendar : Window.isInCalendar now (Window.asked? resource pairs) = true
  · rw [if_pos inCalendar, page_served]
    simp only [inCalendar, true_and, Except.ok.injEq]
    by_cases isOpen : service.store.isOpen = true
    · simp only [isOpen, if_true, true_and]
      constructor
      · intro done
        split at done
        · rename_i rows result
          obtain ⟨⟨runs, attaches⟩, rfl⟩ := (fetched rows).1 result
          exact ⟨runs, attaches, (Except.ok.inj done).symm⟩
        · cases done
      · rintro ⟨runs, attaches, rfl⟩
        rw [(fetched _).2 ⟨⟨runs, attaches⟩, rfl⟩]
        rfl
    · simp [isOpen]
  · rw [if_neg inCalendar]
    simp [inCalendar]

end ListingService

/-! ## What a request asks -/

/-- The column that the window is about. -/
def publishedColumn : Text :=
  "published_at"

/-- The clause of the service is a test on that column. -/
theorem Window.customTest?_clause {schema : Schema} (column : publishedColumn ∈ schema.columnNames)
    (text : Text) : (customTest? schema clause [.text text]).isSome = true := by
  refine List.find?_isSome.2 ⟨.column publishedColumn (.compare .atLeast (.text text)), ?_, ?_⟩
  · exact List.mem_flatMap.2 ⟨_, column, List.mem_map.2 ⟨.atLeast, by decide, rfl⟩⟩
  · rfl

/-- The table of a resource knows the clauses that the service has for it. -/
theorem Window.knownClauses {resource : Resource} (listed : resource ∈ Catalog.resources)
    {schema : Schema} (keeps : Keeps schema resource) (now : Instant) (pairs : List Pair) :
    KnownClauses schema (clausesFor now (asked? resource pairs)) := by
  intro entry member
  cases asked : asked? resource pairs with
  | none =>
      rw [asked] at member
      cases member
  | some days =>
      rw [asked] at member
      obtain rfl := List.mem_singleton.1 member
      have books : resource.name = Catalog.books.name := by
        by_contra other
        rw [asked?, if_neg other] at asked
        cases asked
      have same := (Catalog.find?_of_mem listed).symm
      rw [books, Catalog.find?_of_mem (by decide : Catalog.books ∈ Catalog.resources)] at same
      obtain rfl := Option.some.inj same
      refine customTest?_clause ?_ _
      rw [keeps.2.2]
      decide

/-- **A listing has the rows that its statements ask for.** -/
theorem ListingService.outcome?_selectionOf (service : ListingService) (now : Instant)
    {resource : Resource} (listed : resource ∈ Catalog.resources) (pairs : List Pair)
    {schema : Schema} (keeps : Keeps schema resource) (db : Database) (row : Row) :
    (service.selectionOf now resource pairs).predicate.expand.outcome? db schema row =
      some ((service.selectionOf now resource pairs).outcome db schema row) :=
  Selection.outcome?_expand_ofParameters keeps.2.1 (Window.knownClauses listed keeps now pairs)

/-! ## What requests share -/

section

variable {service : ListingService} {now : Instant} {resource : Resource}
  {pairs others : List Pair}

theorem Window.asked?_of_agree (agree : AgreeBut reservedKeys pairs others) :
    Window.asked? resource others = Window.asked? resource pairs := by
  unfold Window.asked?
  rw [agree Window.key Window.key_notMem_reservedKeys]

/-- Requests that agree on their filters match the same rows. -/
theorem ListingService.matching_of_agree (agree : AgreeBut reservedKeys pairs others)
    (db : Database) (table : Table) :
    (service.selectionOf now resource others).matching db table =
      (service.selectionOf now resource pairs).matching db table := by
  have filters := Parameters.filters_of_agree agree service.bounds
  have asked : Window.asked? resource others = Window.asked? resource pairs :=
    Window.asked?_of_agree agree
  have clauses : (service.selectionOf now resource others).clauses =
      (service.selectionOf now resource pairs).clauses := by
    simp only [selectionOf, Selection.ofParameters, Window.served, filters]
  have custom : (service.selectionOf now resource others).custom =
      (service.selectionOf now resource pairs).custom := by
    simp only [selectionOf, Selection.ofParameters, Window.served, asked]
  unfold Selection.matching Selection.wants Selection.outcome
  rw [clauses, custom]

/-- A page with another offset has the same limit. -/
theorem ListingService.limit_of_agree (agree : AgreeBut [offsetKey] pairs others) :
    (service.selectionOf now resource others).limit =
      (service.selectionOf now resource pairs).limit := by
  have limit : (Parameters.ofPairs others service.bounds).limit =
      (Parameters.ofPairs pairs service.bounds).limit := by
    simp only [Parameters.ofPairs, agree limitKey (by decide)]
  exact limit

end

end CatalogListing
