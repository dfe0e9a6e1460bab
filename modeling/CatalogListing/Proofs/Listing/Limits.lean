/-
# Proofs.Listing.Limits -- when a listing is refused

The values of a request become arguments, conditions and terms of one statement, and
nothing bounds how many they are.  A listing succeeds as long as its statement is within
the limits of the database (`Fits`), no pattern is longer than patterns may be and no
text to search for has a NUL (`Calm`); beyond the limits it is refused
(`listing_succeeds_within_limits`).  The associations of a page are never refused: a page
has at most as many keys as rows.

A set of 256 elements asked of 128 columns is enough to be refused
(`setOnManyColumns_is_refused`).
-/
import CatalogListing.Proofs.Listing.Answer
import CatalogListing.Proofs.Store.TitleSearch
import CatalogListing.Settings.Configuration

namespace CatalogListing

set_option autoImplicit false

open CatalogListing.Filter (Condition classify isUsable requested)

/-! ## The size of a statement -/

/-- A selection is within the limits of statements: its arguments with those of the page,
the depth of its condition and the terms of its order. -/
structure Selection.Fits (selection : Selection) : Prop where
  arguments : selection.plan.arguments.length + 2 ≤ maxArguments
  depth : selection.depth ≤ maxDepth
  order : selection.order.length ≤ maxOrderTerms

/-- The width of a condition is the count of the arguments that are bound to it. -/
theorem width_eq_length_arguments (now : Instant) (resource : Resource) (pairs : List Pair)
    (bounds : PageBounds) :
    let selection := Selection.ofParameters resource (Window.served now resource pairs bounds)
    selection.predicate.width = selection.plan.arguments.length := by
  intro selection
  obtain ⟨-, arguments⟩ := expand_served now resource pairs bounds
  have parameters := selection.parameters_predicate fun entry member =>
    Nat.le_of_eq (Window.length_of_mem_clausesFor member)
  change _ = selection.predicate.expand.arguments.length
  rw [arguments, Sql.Predicate.width, Sql.Parameter.sum_width_eq, parameters, List.flatMap_assoc]
  rfl

/-! ## Tests that raise no fault -/

/-- Testing the condition raises no fault: a pattern is not too long, and a text to search
for has no NUL. -/
def Filter.Condition.IsCalm : Condition → Prop
  | .like pattern => Wildcard.isTooLong pattern = false
  | .fullText words => '\x00' ∉ words
  | _ => True

/-- Every value that a request has for a usable key asks for a condition that raises no
fault, if it asks for any. -/
def Calm (resource : Resource) (pairs : List Pair) : Prop :=
  ∀ pair ∈ pairs, pair.1 ∉ reservedKeys → isUsable resource.filterable pair.1 = true →
    ∀ condition, classify pair.2 = some condition → condition.IsCalm

theorem RowTest.fault?_of_isCalm {resource : Resource} {column : Text} {condition : Condition}
    {test : RowTest} (rendered : ofResource resource column condition = some test)
    (calm : condition.IsCalm) : test.fault? = none := by
  unfold ofResource at rendered
  split at rendered
  · cases rendered
  · split at rendered
    · rename_i words
      split at rendered
      · rename_i index query _ asks
        obtain rfl := Option.some.inj rendered
        have terms := query?_eq words
        rw [asks] at terms
        have some_ : FullText.terms words ≠ [] := by
          intro none_
          rw [if_pos none_] at terms
          cases terms
        rw [if_neg some_] at terms
        obtain rfl := Option.some.inj terms
        simp only [fault?, Search.phrases_of_clean (goesOn_terms (Search.goesOn_of_notMem calm))]
      · cases rendered
    · obtain rfl := Option.some.inj rendered
      cases condition with
      | like pattern =>
          have short : Wildcard.isTooLong pattern = false := calm
          simp [fault?, short]
      | _ => rfl

namespace Selection

variable {now : Instant} {resource : Resource} {pairs : List Pair} {bounds : PageBounds}

theorem fault?_of_mem_tests (calm : Calm resource pairs) {test : RowTest}
    (member : test ∈ (ofParameters resource (Window.served now resource pairs bounds)).tests) :
    test.fault? = none := by
  have asked : (ofParameters resource (Window.served now resource pairs bounds)).tests =
      requested (RowTest.ofResource resource) resource.filterable
        (Window.served now resource pairs bounds).filters :=
    Filter.flatMap_tests_compileAll _ _ _
  rw [asked] at member
  obtain ⟨key, values, column, value, condition, inFilters, usable, -, among, accepted,
    rendered⟩ := Filter.mem_requested_iff.1 member
  obtain ⟨free, rfl⟩ := Window.mem_filters_served inFilters
  exact RowTest.fault?_of_isCalm rendered
    (calm _ (Parameters.mem_valuesOf.1 among) free usable condition accepted)

theorem requireSize_eq_ok_iff (selection : Selection) :
    selection.requireSize = .ok () ↔
      selection.predicate.width + 2 ≤ maxArguments ∧ selection.depth ≤ maxDepth := by
  unfold requireSize
  by_cases wide : maxArguments < selection.predicate.width + 2
  · rw [if_pos wide]
    exact ⟨fun done => (by cases done), fun small => absurd small.1 (Nat.not_le.2 wide)⟩
  · rw [if_neg wide]
    by_cases deep : maxDepth < selection.depth
    · rw [if_pos deep]
      exact ⟨fun done => (by cases done), fun small => absurd small.2 (Nat.not_le.2 deep)⟩
    · rw [if_neg deep]
      exact ⟨fun _ => ⟨Nat.le_of_not_lt wide, Nat.le_of_not_lt deep⟩, fun _ => rfl⟩

/-- A selection within the limits, with tests that raise no fault, runs in every catalog. -/
theorem runs_of_fits (scan : Scan) {db : Database} (catalog : IsCatalog db) (table : Table)
    (calm : Calm resource pairs)
    (fits : (ofParameters resource (Window.served now resource pairs bounds)).Fits) :
    (ofParameters resource (Window.served now resource pairs bounds)).Runs scan db table where
  size := by
    rw [requireSize_eq_ok_iff, width_eq_length_arguments]
    exact ⟨fits.arguments, fits.depth⟩
  indexes := Database.forM_eq_ok_iff.2 fun index _ => by rw [if_pos catalog.index]
  order := by rw [requireOrder, if_neg (Nat.not_lt.2 fits.order)]
  tests := by
    refine Database.forM_eq_ok_iff.2 fun test member => ?_
    rw [fault?_of_mem_tests calm (reached_subset_tests member), Option.elim_none]

/-- The reports of a statement beyond the limits. -/
def refusals : List Text :=
  ["too many SQL variables", "Expression tree is too large (maximum depth 1000)",
    "too many terms in ORDER BY clause"]

/-- A selection with too many arguments is refused before anything else is looked at. -/
theorem fetch_of_wide {selection : Selection} (wide : maxArguments < selection.predicate.width + 2)
    (db : Database) (scan : Scan) (names : List Text) :
    db.fetch scan selection names = .error (.rejected 1 "too many SQL variables") := by
  rw [Database.fetch, requireSize, if_pos wide]
  rfl

/-- A selection beyond the limits is refused. -/
theorem fetch_of_not_fits {db : Database} (catalog : IsCatalog db) (scan : Scan)
    (listed : resource ∈ Catalog.resources) (names : List Text)
    (large : ¬ (ofParameters resource (Window.served now resource pairs bounds)).Fits) :
    ∃ reason ∈ refusals,
      db.fetch scan (ofParameters resource (Window.served now resource pairs bounds)) names =
        .error (.rejected 1 reason) := by
  obtain ⟨table, found, -⟩ := catalog.exists_resource_table listed
  generalize isSelection : ofParameters resource (Window.served now resource pairs bounds) =
    selection at large ⊢
  have width : selection.predicate.width = selection.plan.arguments.length :=
    isSelection ▸ width_eq_length_arguments now resource pairs bounds
  have named : selection.resource = resource := isSelection ▸ rfl
  by_cases wide : maxArguments < selection.predicate.width + 2
  · exact ⟨_, List.mem_cons_self, fetch_of_wide wide db scan names⟩
  by_cases deep : maxDepth < selection.depth
  · refine ⟨_, List.mem_cons_of_mem _ List.mem_cons_self, ?_⟩
    rw [Database.fetch, requireSize, if_neg wide, if_pos deep]
    rfl
  have many : maxOrderTerms < selection.order.length := by
    refine Nat.not_le.1 fun few => large ⟨?_, Nat.le_of_not_lt deep, few⟩
    rw [← width]
    exact Nat.le_of_not_lt wide
  refine ⟨_, List.mem_cons_of_mem _ (List.mem_cons_of_mem _ List.mem_cons_self), ?_⟩
  have size := (requireSize_eq_ok_iff selection).2 ⟨Nat.le_of_not_lt wide, Nat.le_of_not_lt deep⟩
  have requires : db.requireTable selection.resource.table = .ok table := by
    rw [named, Database.requireTable, found]
  have indexes : selection.requireIndexes db = .ok () :=
    Database.forM_eq_ok_iff.2 fun index _ => by rw [if_pos catalog.index]
  simp only [Database.fetch, size, requires, indexes, requireOrder, if_pos many, bind, Except.bind]
  rfl

end Selection

/-! ## Listings -/

/-- Bounds that may be configured. -/
def PageBounds.Configurable (bounds : PageBounds) : Prop :=
  1 ≤ bounds.defaultLimit ∧ bounds.defaultLimit ≤ bounds.maxLimit ∧
    bounds.maxLimit ≤ Configuration.maxBound

theorem PageBounds.limit_le {bounds : PageBounds} (configurable : bounds.Configurable)
    (raw : Option Text) : bounds.limit raw ≤ Configuration.maxBound := by
  obtain ⟨-, crossed, bound⟩ := configurable
  unfold limit
  split
  · exact (Nat.min_le_right _ _).trans bound
  · exact crossed.trans bound

/-- A page of at most ten thousand rows refers to few enough keys. -/
theorem Attaches.of_configurable {service : ListingService}
    (configurable : service.bounds.Configurable) (now : Instant) (resource : Resource)
    (pairs : List Pair) (scan : Scan) (db : Database) (table : Table) :
    Attaches table.schema ((service.selectionOf now resource pairs).page scan db table)
      (service.asksFor resource pairs) := by
  refine Attaches.of_length_le ?_ _ _
  have length := (service.selectionOf now resource pairs).length_page scan db table
  have small : (service.selectionOf now resource pairs).limit ≤ Configuration.maxBound :=
    PageBounds.limit_le configurable _
  have room : Configuration.maxBound ≤ maxArguments := by decide
  omega

/-- What the database refuses is reported. -/
theorem ListingService.list_of_fetch_error {resource : Resource}
    (listed : resource ∈ Catalog.resources) {service : ListingService}
    (isOpen : service.store.isOpen = true) {now : Instant} {pairs : List Pair}
    (inCalendar : Window.isInCalendar now (Window.asked? resource pairs) = true) {fault : Fault}
    (refused : service.store.database.fetch service.store.scan
      (service.selectionOf now resource pairs)
      (Parameters.ofPairs pairs service.bounds).preload = .error fault) :
    service.list now resource.name pairs = .ok (.error (.database fault)) := by
  rw [list_eq listed, if_pos inCalendar, page_served, if_pos isOpen, refused]

/-- A request within the limits, whose tests raise no fault, has its answer.  Limits that may
be configured keep the page itself small, so its associations are never refused. -/
theorem ListingService.list_of_fits {resource : Resource}
    (listed : resource ∈ Catalog.resources) {service : ListingService}
    (isOpen : service.store.isOpen = true) (configurable : service.bounds.Configurable)
    (catalog : IsCatalog service.store.database) {table : Table}
    (found : service.store.database.table? resource.table = some table) {now : Instant}
    {pairs : List Pair}
    (inCalendar : Window.isInCalendar now (Window.asked? resource pairs) = true)
    (fits : (service.selectionOf now resource pairs).Fits) (calm : Calm resource pairs) :
    service.list now resource.name pairs = .ok (.ok (service.answer now resource pairs table)) := by
  have attaches := Attaches.of_configurable configurable now resource pairs service.store.scan
    service.store.database table
  exact (list_eq_ok_iff listed catalog found _).2 ⟨inCalendar, isOpen,
    Selection.runs_of_fits service.store.scan catalog table calm fits, attaches, rfl⟩

/-- **A listing within the limits succeeds, and one beyond them is refused.** -/
theorem listing_succeeds_within_limits {resource : Resource}
    (listed : resource ∈ Catalog.resources) (service : ListingService)
    (reachable : Reachable service.store.database) (isOpen : service.store.isOpen = true)
    (configurable : service.bounds.Configurable) (now : Instant) (pairs : List Pair)
    {parameters : Parameters}
    (applied : Window.apply now resource (.ofPairs pairs service.bounds) = .ok parameters) :
    let selection := Selection.ofParameters resource parameters
    (selection.Fits → Calm resource pairs →
      ∃ listing, service.list now resource.name pairs = .ok (.ok listing)) ∧
    (¬ selection.Fits → ∃ reason ∈ Selection.refusals,
      service.list now resource.name pairs = .ok (.error (.database (.rejected 1 reason)))) := by
  have catalog := reachable.isCatalog
  obtain ⟨table, found, -⟩ := catalog.exists_resource_table listed
  obtain ⟨inCalendar, rfl⟩ := (Window.apply_eq_ok_iff _ _ _ _ _).1 applied
  intro selection
  constructor
  · intro fits calm
    exact ⟨_, ListingService.list_of_fits listed isOpen configurable catalog found inCalendar fits
      calm⟩
  · intro large
    obtain ⟨reason, known, refused⟩ := Selection.fetch_of_not_fits catalog service.store.scan
      listed (Parameters.ofPairs pairs service.bounds).preload large
    exact ⟨reason, known, ListingService.list_of_fetch_error listed isOpen inCalendar refused⟩

/-- A service over a database, with the standard bounds. -/
def serviceOver (db : Database) : ListingService :=
  { store := { database := db } }

theorem configurable_standard : PageBounds.standard.Configurable := by
  unfold PageBounds.Configurable
  decide

/-- A request with a search, a pattern, a set on two columns and an association. -/
def mixedRequest : List Pair :=
  [("title", "m[gods]m"), ("genre", "fan%"), ("id||pages", "\x7b3,4\x7d"), ("order_by", "-price"),
    ("populate", "Author")]

theorem calm_mixedRequest : Calm Catalog.books mixedRequest := by
  have search : classify "m[gods]m" = some (.fullText "gods") := by decide +kernel
  have pattern : classify "fan%" = some (.like "fan%") := by decide +kernel
  have set : classify "\x7b3,4\x7d" = some (.member false ["3", "4"]) := by decide +kernel
  intro pair member free usable condition accepted
  simp only [mixedRequest, List.mem_cons, List.not_mem_nil, or_false] at member
  rcases member with rfl | rfl | rfl | rfl | rfl
  · obtain rfl := Option.some.inj (search.symm.trans accepted)
    change '\x00' ∉ ("gods" : Text)
    decide
  · obtain rfl := Option.some.inj (pattern.symm.trans accepted)
    change Wildcard.isTooLong "fan%" = false
    decide
  · obtain rfl := Option.some.inj (set.symm.trans accepted)
    trivial
  · exact absurd (by decide) free
  · exact absurd (by decide) free

/-- The request is within the limits, and none of its tests raises a fault. -/
theorem mixedRequest_succeeds :
    Catalog.books ∈ Catalog.resources ∧ Reachable (emptyCatalog.afterAll writesOfBooks) ∧
      PageBounds.standard.Configurable ∧
      ∃ parameters, Window.apply 0 Catalog.books (.ofPairs mixedRequest .standard) = .ok parameters ∧
        (Selection.ofParameters Catalog.books parameters).Fits ∧
        Calm Catalog.books mixedRequest ∧
        ∃ listing, (serviceOver (emptyCatalog.afterAll writesOfBooks)).list 0 Catalog.books.name
          mixedRequest = .ok (.ok listing) := by
  have listed : Catalog.books ∈ Catalog.resources := by decide
  have reachable := reachable_emptyCatalog writesOfBooks
  generalize emptyCatalog.afterAll writesOfBooks = db at reachable ⊢
  have applied := (Window.apply_eq_ok_iff 0 Catalog.books mixedRequest .standard _).2
    ⟨by decide +kernel, rfl⟩
  have fits : (Selection.ofParameters Catalog.books
      (Window.served 0 Catalog.books mixedRequest .standard)).Fits :=
    ⟨by decide +kernel, by decide +kernel, by decide +kernel⟩
  obtain ⟨succeeds, -⟩ := listing_succeeds_within_limits listed (serviceOver db)
    reachable rfl configurable_standard 0 mixedRequest applied
  exact ⟨listed, reachable, configurable_standard, _, applied, fits, calm_mixedRequest,
    succeeds fits calm_mixedRequest⟩

/-- A set of 256 elements asked of 128 columns. -/
def setOnManyColumns : List Pair :=
  [(List.intercalate "||" (List.replicate 128 "id"),
    '\x7b' :: (List.intercalate [','] (List.replicate 256 ['1']) ++ ['\x7d']))]

/-- Every column has arguments of its own for all elements of the set, and these are more
than a statement may have. -/
theorem setOnManyColumns_is_refused :
    Catalog.books ∈ Catalog.resources ∧ Reachable (emptyCatalog.afterAll writesOfBooks) ∧
      PageBounds.standard.Configurable ∧
      ∃ parameters,
        Window.apply 0 Catalog.books (.ofPairs setOnManyColumns .standard) = .ok parameters ∧
        (Selection.ofParameters Catalog.books parameters).plan.arguments.length = 32768 ∧
        (serviceOver (emptyCatalog.afterAll writesOfBooks)).list 0 Catalog.books.name
          setOnManyColumns = .ok (.error (.database (.rejected 1 "too many SQL variables"))) := by
  have listed : Catalog.books ∈ Catalog.resources := by decide
  have reachable := reachable_emptyCatalog writesOfBooks
  generalize emptyCatalog.afterAll writesOfBooks = db at reachable ⊢
  have inCalendar : Window.isInCalendar 0 (Window.asked? Catalog.books setOnManyColumns) = true := by
    decide +kernel
  have width : ((serviceOver db).selectionOf 0 Catalog.books setOnManyColumns).predicate.width =
      32768 := by
    change (Selection.ofParameters Catalog.books
      (Window.served 0 Catalog.books setOnManyColumns .standard)).predicate.width = 32768
    decide +kernel
  have count := width_eq_length_arguments 0 Catalog.books setOnManyColumns .standard
  refine ⟨listed, reachable, configurable_standard, _,
    (Window.apply_eq_ok_iff _ _ _ _ _).2 ⟨inCalendar, rfl⟩, count.symm.trans width, ?_⟩
  refine ListingService.list_of_fetch_error listed rfl inCalendar (Selection.fetch_of_wide ?_ _ _ _)
  rw [width]
  decide

end CatalogListing
