/-
# Proofs.Listing.Window -- what the window does to the parameters of a request

The service takes its key out of the filters and adds at most one clause.  Which one
is known from the pairs of the request (`asked?`), so the parameters that reach the
store are known as well (`apply_eq_ok_iff`).
-/
import CatalogListing.Proofs.Query.Parameters
import CatalogListing.Listing.Window

namespace CatalogListing.Window

set_option autoImplicit false

/-- The count of days that a request for a resource asks for. -/
def asked? (resource : Resource) (pairs : List Pair) : Option Nat :=
  if resource.name = Catalog.books.name then
    (Parameters.valuesOf key pairs).head?.bind days?
  else none

/-- The filters that are left for a resource when the service has taken its key. -/
def leftFor (resource : Resource) (filters : Keyed (List Text)) : Keyed (List Text) :=
  if resource.name = Catalog.books.name then filters.erase key else filters

/-- The clauses for a count of days. -/
def clausesFor (now : Instant) : Option Nat → Keyed (List Sql.Parameter)
  | none => []
  | some days => [(clause, [.text (Calendar.timestamp (start now days))])]

/-- The parameters of a request as they reach the store. -/
def served (now : Instant) (resource : Resource) (pairs : List Pair) (bounds : PageBounds) :
    Parameters :=
  let parameters := Parameters.ofPairs pairs bounds
  { parameters with
    filters := leftFor resource parameters.filters
    custom := clausesFor now (asked? resource pairs) }

theorem ascending_served (now : Instant) (resource : Resource) (pairs : List Pair)
    (bounds : PageBounds) : Keyed.Ascending (served now resource pairs bounds).filters := by
  have ascending := Parameters.ascending_filters pairs bounds
  simp only [served, leftFor]
  split
  · exact ascending.erase key
  · exact ascending

theorem length_of_mem_clausesFor {now : Instant} {days : Option Nat}
    {entry : Text × List Sql.Parameter} (member : entry ∈ clausesFor now days) :
    entry.2.length = 1 := by
  cases days with
  | none => cases member
  | some count =>
      obtain rfl := List.mem_singleton.1 member
      rfl

/-- The window starts in the calendar, if there is one. -/
def isInCalendar (now : Instant) (days : Option Nat) : Bool :=
  days.all fun count => Calendar.inRange (start now count)

theorem key_notMem_reservedKeys : key ∉ reservedKeys := by decide

/-- What the service makes of a request, told from its pairs. -/
theorem apply_ofPairs (now : Instant) (resource : Resource) (pairs : List Pair)
    (bounds : PageBounds) :
    apply now resource (.ofPairs pairs bounds) =
      if isInCalendar now (asked? resource pairs) then .ok (served now resource pairs bounds)
      else .error .beforeCalendar := by
  have found := Parameters.find?_filters pairs bounds key
  simp only [key_notMem_reservedKeys, false_or] at found
  by_cases books : resource.name = Catalog.books.name
  · simp only [apply, if_pos books, Parameters.takeFilter, found, served, asked?, leftFor]
    by_cases absent : Parameters.valuesOf key pairs = []
    · rw [if_pos absent] at found ⊢
      rw [Keyed.erase_of_find?_eq_none found, absent]
      rfl
    · rw [if_neg absent]
      simp only [narrow]
      cases (Parameters.valuesOf key pairs).head?.bind days? with
      | none => rfl
      | some days => rfl
  · simp only [apply, if_neg books, served, asked?, leftFor]
    rfl

theorem apply_eq_ok_iff (now : Instant) (resource : Resource) (pairs : List Pair)
    (bounds : PageBounds) (parameters : Parameters) :
    apply now resource (.ofPairs pairs bounds) = .ok parameters ↔
      isInCalendar now (asked? resource pairs) = true ∧
        parameters = served now resource pairs bounds := by
  rw [apply_ofPairs]
  by_cases inside : isInCalendar now (asked? resource pairs) = true
  · rw [if_pos inside]
    constructor
    · intro same
      exact ⟨inside, (Except.ok.inj same).symm⟩
    · rintro ⟨-, rfl⟩
      rfl
  · rw [if_neg inside]
    constructor
    · intro same
      cases same
    · rintro ⟨inCalendar, -⟩
      exact absurd inCalendar inside

/-- The filters that reach the store: those of the keys of the request that are neither
reserved nor taken by the service, with the values that the request has for them. -/
theorem mem_filters_served_iff {now : Instant} {resource : Resource} {pairs : List Pair}
    {bounds : PageBounds} {name : Text} {values : List Text} :
    (name, values) ∈ (served now resource pairs bounds).filters ↔
      (name ∉ reservedKeys ∧ values ≠ [] ∧ values = Parameters.valuesOf name pairs) ∧
        ¬ (resource.name = Catalog.books.name ∧ name = key) := by
  have given : (name, values) ∈ (Parameters.ofPairs pairs bounds).filters ↔
      name ∉ reservedKeys ∧ values ≠ [] ∧ values = Parameters.valuesOf name pairs := by
    rw [Keyed.mem_iff_find? (Parameters.ascending_filters pairs bounds), Parameters.find?_filters]
    by_cases absent : name ∈ reservedKeys ∨ Parameters.valuesOf name pairs = []
    · rw [if_pos absent]
      constructor
      · intro found
        cases found
      · rintro ⟨free, some_, rfl⟩
        exact absurd absent (not_or.2 ⟨free, some_⟩)
    · rw [if_neg absent]
      obtain ⟨free, some_⟩ := not_or.1 absent
      constructor
      · intro found
        obtain rfl := Option.some.inj found
        exact ⟨free, some_, rfl⟩
      · rintro ⟨-, -, rfl⟩
        rfl
  rw [← given]
  simp only [served, leftFor]
  by_cases books : resource.name = Catalog.books.name
  · rw [if_pos books, Keyed.erase, List.mem_filter]
    simp [books]
  · simp [books]

/-- A filter that reaches the store has a key that is not reserved, and the values that
the request has for it. -/
theorem mem_filters_served {now : Instant} {resource : Resource} {pairs : List Pair}
    {bounds : PageBounds} {name : Text} {values : List Text}
    (member : (name, values) ∈ (served now resource pairs bounds).filters) :
    name ∉ reservedKeys ∧ values = Parameters.valuesOf name pairs := by
  obtain ⟨⟨free, -, same⟩, -⟩ := mem_filters_served_iff.1 member
  exact ⟨free, same⟩

/-- The count of days is settled by the first value of the key, so pairs that come later
change it only where there was none. -/
theorem asked?_append {resource : Resource} {pairs later : List Pair} {days : Nat}
    (asked : asked? resource pairs = some days) : asked? resource (pairs ++ later) = some days := by
  unfold asked? at asked ⊢
  split at asked
  · rename_i books
    rw [if_pos books, Parameters.valuesOf_append]
    obtain ⟨first, isFirst, counts⟩ := Option.bind_eq_some_iff.1 asked
    rw [List.head?_append, isFirst]
    exact counts
  · cases asked

end CatalogListing.Window
