/-
# Proofs.Listing.PublishedWithin -- the books since the start of a window

A request for books with a count of days matches the books it matches without the count that
were published at the start of the window or later; the start is compared as text, also when it
lies before the year 0.  Without a count the key has no effect, and more days never match fewer
books (`within_days_matches_since`).  A count that leads before the calendar breaks the listing
off, where a count of zero is dropped (`uncountable_days_break_listing_off`).
-/
import CatalogListing.Proofs.Listing.Inert
import CatalogListing.Proofs.Listing.Instants
import CatalogListing.Proofs.Listing.WindowStart

namespace CatalogListing

set_option autoImplicit false

open Calendar (InFourDigits timestamp)
open CatalogListing.Filter (Comparison Condition)
open Parameters (AgreeBut valuesOf)

/-! ## The clause of the window -/

/-- A timestamp of the years 0 to 9999 comes before the same ones as its instant, earlier years
included. -/
theorem Calendar.precedes_timestamp_of_le {instant other : Int} (inside : InFourDigits instant)
    (late : other ≤ 253402300799) :
    Text.precedes (timestamp instant) (timestamp other) = true ↔ instant < other := by
  by_cases early : other < -62167219200
  · have before := precedes_timestamp_of_early early inside
    rw [Text.precedes_iff] at before ⊢
    have behind : ¬ instant < other := by
      have low := inside.1
      omega
    exact iff_of_false (lt_asymm before) behind
  · exact precedes_timestamp_iff inside ⟨Int.not_lt.1 early, late⟩

namespace Window

/-- The clause of the service tests one column. -/
theorem customOutcome_clause (db : Database) (row : Row) (text : Text) :
    customOutcome db Tables.books row clause [.text text] =
      (Condition.compare .atLeast (.text text)).outcome .text
        (row.value Tables.books publishedColumn) := rfl

/-- The clause is true of the books since the start of the window. -/
theorem clause_iff {db : Database} {row : Row}
    (holds : row.value Tables.books publishedColumn = .null ∨
      (row.value Tables.books publishedColumn).instant?.isSome = true) {start : Int}
    (late : start ≤ 253402300799) :
    customOutcome db Tables.books row clause [.text (timestamp start)] = some true ↔
      (row.value Tables.books publishedColumn).instant?.any (start ≤ ·) = true := by
  rw [customOutcome_clause]
  generalize row.value Tables.books publishedColumn = value at holds
  rcases holds with rfl | some_
  · simp [Condition.outcome, Scalar.isNull, Scalar.instant?]
  · obtain ⟨m, reads⟩ := Option.isSome_iff_exists.1 some_
    obtain ⟨inside, rfl⟩ := Scalar.instant?_eq_some_iff.1 reads
    have order : (Scalar.text (timestamp m)).precedes (.text (timestamp start)) = decide (m < start) := by
      rw [Bool.eq_iff_iff, decide_eq_true_iff, ← Calendar.precedes_timestamp_of_le inside late]
      rfl
    have compared : Comparison.atLeast.holds (.text (timestamp m))
        ((Scalar.text (timestamp start)).operandFor .text) = !decide (m < start) :=
      congrArg (! ·) order
    rw [reads]
    simp [Condition.outcome, Scalar.isNull, Filter.Operand.scalar, compared]

/-! ## Requests without the key -/

/-- The pairs of a request but those of the key of the service. -/
def without (pairs : List Pair) : List Pair :=
  pairs.filter fun pair => pair.1 != key

theorem agree_without (pairs : List Pair) : AgreeBut [key] pairs (without pairs) := by
  intro name other
  have apart : name ≠ key := fun same => other (List.mem_singleton.2 same)
  unfold without valuesOf
  rw [List.filterMap_filter]
  refine List.filterMap_congr fun pair _ => ?_
  by_cases own : pair.1 = name
  · simp [own, apart]
  · simp [own]

theorem asked?_without (resource : Resource) (pairs : List Pair) :
    asked? resource (without pairs) = none := by
  have nothing : valuesOf key (without pairs) = [] := by
    unfold without valuesOf
    rw [List.filterMap_filter, List.filterMap_eq_nil_iff]
    intro pair _
    by_cases own : pair.1 = key <;> simp [own]
  unfold asked?
  rw [nothing]
  split <;> rfl

variable {service : ListingService} {now : Int} {pairs : List Pair} {db : Database} {table : Table}
  {days : Nat}

/-- With a count of days the clause of the service is one more test on each book. -/
theorem mem_matching_of_asked (asked : asked? Catalog.books pairs = some days) (row : Row) :
    row ∈ (service.selectionOf now Catalog.books pairs).matching db table ↔
      row ∈ (service.selectionOf now Catalog.books (without pairs)).matching db table ∧
        customOutcome db table.schema row clause [.text (timestamp (start now days))] =
          some true := by
  have agree := agree_without pairs
  rw [mem_matching_iff, mem_matching_iff, asked, asked?_without]
  simp only [clausesFor, List.forall_mem_singleton, List.not_mem_nil, false_imp_iff, implies_true,
    and_true, and_assoc]
  refine and_congr_right fun _ => and_congr ?_ Iff.rfl
  refine forall_congr' fun name => forall_congr' fun _ => forall_congr' fun left => ?_
  have apart : name ∉ [key] := fun isKey => left ⟨trivial, List.mem_singleton.1 isKey⟩
  rw [agree name apart]

/-- Without a count of days a request asks for the same as without the key. -/
theorem asksAlike_without (asked : asked? Catalog.books pairs = none) :
    AsksAlike Catalog.books pairs (without pairs) := by
  have agree := agree_without pairs
  constructor
  · exact agree limitKey (by decide)
  · exact agree offsetKey (by decide)
  · rw [asked, asked?_without]
  · intro name filters
    have apart : name ∉ [key] := fun isKey => filters.2 ⟨rfl, List.mem_singleton.1 isKey⟩
    rw [agree name apart]
  · unfold sortedFields
    rw [agree orderKey (by decide)]
  · intro bounds
    simp only [Parameters.ofPairs, agree populateKey (by decide)]

end Window

/-! ## Books published within days -/

/-- The books that a request matches without a count of days, from an instant on. -/
def booksSince (service : ListingService) (now : Int) (pairs : List Pair) (table : Table)
    (start : Int) : List Row :=
  ((service.selectionOf now Catalog.books (Window.without pairs)).matching
    service.store.database table).filter fun row =>
      (row.value table.schema publishedColumn).instant?.any (start ≤ ·)

section

variable {service : ListingService} {table : Table} {now : Int} {pairs : List Pair}

theorem matching_eq_booksSince (schema : table.schema = Tables.books)
    (instants : HoldsInstants table publishedColumn) (late : now ≤ 253402300799) {days : Nat}
    (asked : Window.asked? Catalog.books pairs = some days) :
    (service.selectionOf now Catalog.books pairs).matching service.store.database table =
      booksSince service now pairs table (now - 86400 * days) := by
  refine Selection.matching_eq_filter fun row => ?_
  rw [Window.mem_matching_of_asked asked]
  refine and_congr_right fun member => ?_
  have holds := instants row (List.mem_filter.1 member).1
  have start : now - 86400 * days ≤ 253402300799 := by omega
  rw [schema] at holds ⊢
  exact Window.clause_iff holds start

theorem booksSince_sublist {early start : Int} (earlier : early ≤ start) :
    (booksSince service now pairs table start).Sublist
      (booksSince service now pairs table early) := by
  refine List.monotone_filter_right _ fun row => ?_
  cases (row.value table.schema publishedColumn).instant? with
  | none => exact id
  | some m =>
      intro since
      exact decide_eq_true (Int.le_trans earlier (of_decide_eq_true since))

end

/-- **The books published within days.**  Without a count the request is answered as without the
key.  A count that leads into the calendar is answered with the books since the start of the
window, and with fewer days no more of them; a count that leads before it breaks off. -/
theorem within_days_matches_since {now : Int} (inside : InFourDigits now)
    (service : ListingService) (catalog : IsCatalog service.store.database) {table : Table}
    (found : service.store.database.table? Catalog.books.table = some table)
    (instants : HoldsInstants table publishedColumn) (pairs : List Pair) :
    (Window.asked? Catalog.books pairs = none →
      service.list now Catalog.books.name pairs =
        service.list now Catalog.books.name (Window.without pairs)) ∧
    ∀ days, Window.asked? Catalog.books pairs = some days →
      (now - 86400 * days < Calendar.earliest →
        service.list now Catalog.books.name pairs = .error .beforeCalendar) ∧
      (Calendar.earliest ≤ now - 86400 * days →
        (∃ answered, service.list now Catalog.books.name pairs = .ok answered ∧
          ∀ listing, answered = .ok listing →
            listing = service.answer now Catalog.books pairs table ∧
            listing.total = (booksSince service now pairs table (now - 86400 * days)).length) ∧
        (service.selectionOf now Catalog.books pairs).matching service.store.database table =
          booksSince service now pairs table (now - 86400 * days) ∧
        ∀ others few, Window.without others = Window.without pairs →
          Window.asked? Catalog.books others = some few → few ≤ days →
            ((service.selectionOf now Catalog.books others).matching service.store.database
              table).Sublist
            ((service.selectionOf now Catalog.books pairs).matching service.store.database
              table)) := by
  have listed : Catalog.books ∈ Catalog.resources := by decide
  have schema : table.schema = Tables.books := catalog.schema_books found
  have late := inside.2
  refine ⟨fun asked => ((Window.asksAlike_without asked).list_eq listed service now).symm,
    fun days asked => ⟨fun before => ?_, fun reached => ⟨?_, ?_, ?_⟩⟩⟩
  · have outside : ¬ Calendar.inRange (Window.start now days) = true :=
      fun inRange => Int.not_le.2 before ((Window.inRange_start_iff late days).1 inRange)
    rw [ListingService.list_eq listed, asked]
    exact if_neg outside
  · have inRange := (Window.inRange_start_iff late days).2 reached
    have answered : service.list now Catalog.books.name pairs = .ok (service.page Catalog.books
        (Window.served now Catalog.books pairs service.bounds)) := by
      rw [ListingService.list_eq listed, asked]
      exact if_pos inRange
    refine ⟨_, answered, fun listing isListing => ?_⟩
    rw [isListing] at answered
    obtain ⟨-, -, -, -, rfl⟩ :=
      (ListingService.list_eq_ok_iff listed catalog found listing).1 answered
    exact ⟨rfl, congrArg List.length (matching_eq_booksSince schema instants late asked)⟩
  · exact matching_eq_booksSince schema instants late asked
  · intro others few same asked' fewer
    rw [matching_eq_booksSince schema instants late asked,
      matching_eq_booksSince schema instants late asked', booksSince, booksSince, same]
    exact booksSince_sublist (by omega)

/-- One day before the second of January 1970 only the later book was published, and more days
than there are since the year 0 take in the earlier one. -/
theorem later_book_is_within_a_day :
    InFourDigits 86400 ∧ IsCatalog (emptyCatalog.afterAll writesOfDatedBooks) ∧
      ∃ table, (emptyCatalog.afterAll writesOfDatedBooks).table? Catalog.books.table = some table ∧
        HoldsInstants table publishedColumn ∧
        (((serviceOver (emptyCatalog.afterAll writesOfDatedBooks)).selectionOf 86400 Catalog.books
          [(Window.key, " 1 ")]).matching (emptyCatalog.afterAll writesOfDatedBooks) table).map
            (·.key) = [4] ∧
        (((serviceOver (emptyCatalog.afterAll writesOfDatedBooks)).selectionOf 86400 Catalog.books
          [(Window.key, "+0719530"), (Window.key, "1")]).matching
            (emptyCatalog.afterAll writesOfDatedBooks) table).map (·.key) = [3, 4] := by
  have catalog := (reachable_emptyCatalog writesOfDatedBooks).isCatalog
  have computed : ((emptyCatalog.afterAll writesOfDatedBooks).table? Catalog.books.table).map
      (fun table => (decide (HoldsInstants table publishedColumn),
        (table.rows.filter fun row => (row.value table.schema publishedColumn).instant?.any
          ((0 : Int) ≤ ·)).map (·.key),
        (table.rows.filter fun row => (row.value table.schema publishedColumn).instant?.any
          ((-62167305600 : Int) ≤ ·)).map (·.key))) =
      some ((true, [4], [3, 4]) : Bool × List Int × List Int) := by
    rw [emptyCatalog, Migration.run_empty]
    decide +kernel
  generalize emptyCatalog.afterAll writesOfDatedBooks = db at catalog computed ⊢
  obtain ⟨table, found, all⟩ := Option.map_eq_some_iff.1 computed
  obtain ⟨instants, rest⟩ := Prod.mk.inj all
  obtain ⟨few, many⟩ := Prod.mk.inj rest
  have inside : InFourDigits 86400 := by decide
  have day : Window.asked? Catalog.books [(Window.key, " 1 ")] = some 1 := by decide +kernel
  have days : Window.asked? Catalog.books [(Window.key, "+0719530"), (Window.key, "1")] =
      some 719530 := by decide +kernel
  obtain ⟨-, counted⟩ := within_days_matches_since inside (serviceOver db) catalog found
    (of_decide_eq_true instants) [(Window.key, " 1 ")]
  obtain ⟨-, counted'⟩ := within_days_matches_since inside (serviceOver db) catalog found
    (of_decide_eq_true instants) [(Window.key, "+0719530"), (Window.key, "1")]
  obtain ⟨-, same, -⟩ := (counted 1 day).2 (by decide)
  obtain ⟨-, same', -⟩ := (counted' 719530 days).2 (by decide)
  have bare : Window.without [(Window.key, " 1 ")] = [] := by decide
  have bare' : Window.without [(Window.key, "+0719530"), (Window.key, "1")] = [] := by decide
  rw [booksSince, bare, matching_nil] at same
  rw [booksSince, bare', matching_nil] at same'
  exact ⟨inside, catalog, table, found, of_decide_eq_true instants,
    (congrArg (List.map (·.key)) same).trans few, (congrArg (List.map (·.key)) same').trans many⟩

/-- The largest word of 32 bits is a count of days for which a listing of books breaks off, while
without it, or with a count of zero, the listing is answered. -/
theorem uncountable_days_break_listing_off :
    InFourDigits 1711886400 ∧ Window.days? "4294967295" = some 4294967295 ∧
      (serviceOver emptyCatalog).list 1711886400 Catalog.books.name
        [(Window.key, "4294967295")] = .error .beforeCalendar ∧
      (∃ answered, (serviceOver emptyCatalog).list 1711886400 Catalog.books.name
        [(Window.key, "0")] = .ok answered) ∧
      ∃ answered, (serviceOver emptyCatalog).list 1711886400 Catalog.books.name
        (Window.without [(Window.key, "4294967295")]) = .ok answered := by
  have listed : Catalog.books ∈ Catalog.resources := by decide
  exact ⟨by decide, by decide +kernel,
    (ListingService.list_eq listed).trans (if_neg (by decide +kernel)),
    ⟨_, (ListingService.list_eq listed).trans (if_pos (by decide +kernel))⟩,
    ⟨_, (ListingService.list_eq listed).trans (if_pos (by decide +kernel))⟩⟩

end CatalogListing
