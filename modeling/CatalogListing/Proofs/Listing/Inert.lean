/-
# Proofs.Listing.Inert -- pairs that ask for nothing

A request may hold pairs that cannot be used (`Inert`): a filter value that has a form but
not its content, a key that names no column, a field that rows are not ordered by, names
without an association and names given before.  A request has the same listing without
such a pair, and fails as it did (`listing_unchanged_without_inert`).

Its SQL may well be another: one more value of a key puts parentheses around the tests of
an alternative.  So what is compared is the selection without them, and of the names only
the associations that they ask for (`AsksAlike`).
-/
import CatalogListing.Proofs.Listing.Pages

namespace CatalogListing

set_option autoImplicit false

open CatalogListing.Filter (Clause classify columnsOf compileAll isUsable namesAlternatives)
open Parameters (AgreeBut lookedUp valuesOf withName)

/-! ## Inert pairs -/

/-- The key is neither reserved nor taken by the service. -/
def IsFilterKey (resource : Resource) (key : Text) : Prop :=
  key ∉ reservedKeys ∧ ¬ (resource.name = Catalog.books.name ∧ key = Window.key)

instance (resource : Resource) (key : Text) : Decidable (IsFilterKey resource key) :=
  inferInstanceAs (Decidable (_ ∧ _))

/-- The pair asks a resource for nothing that the pairs before it have not asked for. -/
inductive Inert (resource : Resource) (before : List Pair) : Pair → Prop where
  /-- A filter value that asks nothing. -/
  | value {key value : Text} (filters : IsFilterKey resource key)
      (rejected : classify value = none) : Inert resource before (key, value)
  /-- A filter key that is no field to filter by, and no alternative of which is a column. -/
  | key {key value : Text} (filters : IsFilterKey resource key)
      (unknown : key ∉ resource.filterable)
      (foreign : namesAlternatives key = true →
        ∀ column ∈ columnsOf key, resource.hasColumn column = false) :
      Inert resource before (key, value)
  /-- No field to order by, or one that rows are not ordered by. -/
  | order {value : Text}
      (unsorted : ∀ term, OrderTerm.ofText? value = some term →
        resource.isSortable term.field = false) : Inert resource before (orderKey, value)
  /-- Names that the resource has no association of, or that were given before. -/
  | populate {value : Text}
      (passed : ∀ name ∈ NameList.ofText value, resource.association? (lookedUp name) = none ∨
        ∃ earlier, (populateKey, earlier) ∈ before ∧
          ∃ other ∈ NameList.ofText earlier, lookedUp other = lookedUp name) :
      Inert resource before (populateKey, value)

/-! ## The clause of a key -/

section

variable {resource : Resource} {key : Text}

/-- What a key with its values asks of the rows of a resource, parentheses aside. -/
def askedBy (resource : Resource) (key : Text) (values : List Text) : Option (Clause RowTest) :=
  if isUsable resource.filterable key then
    (Clause.compile (RowTest.ofResource resource) key values).map Clause.ungrouped
  else none

theorem Filter.Clause.compile_eq_none {α : Type} {render : Filter.Renderer α} {values : List Text}
    (untested : ∀ column ∈ columnsOf key, Filter.tests render (values.filterMap classify) column = []) :
    Clause.compile render key values = none := by
  have nothing : (((columnsOf key).map (Filter.tests render (values.filterMap classify))).filter
      fun ts => !ts.isEmpty) = [] := by
    rw [List.filter_eq_nil_iff]
    intro ts member
    obtain ⟨column, inKey, rfl⟩ := List.mem_map.1 member
    simp [untested column inKey]
  simp only [Clause.compile, nothing, List.isEmpty_nil, if_true]

/-- Only the conditions among the values count. -/
theorem askedBy_congr {values others : List Text}
    (same : others.filterMap classify = values.filterMap classify) :
    askedBy resource key others = askedBy resource key values := by
  unfold askedBy Clause.compile
  rw [same]
  split
  · dsimp only
    split <;> rfl
  · rfl

theorem askedBy_nil : askedBy resource key [] = none := by
  unfold askedBy
  rw [Clause.compile_eq_none fun column _ => rfl, Option.map_none, ite_self]

/-- A key that names no column asks nothing, whatever its values. -/
theorem askedBy_of_foreign (unknown : key ∉ resource.filterable)
    (foreign : namesAlternatives key = true →
      ∀ column ∈ columnsOf key, resource.hasColumn column = false) (values : List Text) :
    askedBy resource key values = none := by
  unfold askedBy
  by_cases usable : isUsable resource.filterable key = true
  · have alternatives : namesAlternatives key = true := by
      simpa [isUsable, unknown] using usable
    have untested : Clause.compile (RowTest.ofResource resource) key values = none := by
      refine Clause.compile_eq_none fun column inKey => ?_
      rw [Filter.tests, List.filterMap_eq_nil_iff]
      intro condition _
      simp [RowTest.ofResource, foreign alternatives column inKey]
    rw [untested, Option.map_none, ite_self]
  · rw [if_neg usable]

theorem ungrouped_compileAll (resource : Resource) (filters : Filter.Filters) :
    (compileAll (RowTest.ofResource resource) resource.filterable filters).map Clause.ungrouped =
      filters.filterMap fun filter => askedBy resource filter.1 filter.2 := by
  rw [compileAll, List.map_filterMap]
  congr 1
  funext filter
  unfold askedBy isUsable
  split <;> rfl

/-- A key that reaches the store asks what the values of the request do. -/
theorem askedBy_served (now : Instant) (resource : Resource) (pairs : List Pair)
    (bounds : PageBounds) (key : Text) :
    (Keyed.find? key (Window.served now resource pairs bounds).filters).bind
        (askedBy resource key) =
      if IsFilterKey resource key then askedBy resource key (valuesOf key pairs) else none := by
  have ascending := Window.ascending_served now resource pairs bounds
  have reads (values : List Text) :
      Keyed.find? key (Window.served now resource pairs bounds).filters = some values ↔
        (key ∉ reservedKeys ∧ values ≠ [] ∧ values = valuesOf key pairs) ∧
          ¬ (resource.name = Catalog.books.name ∧ key = Window.key) := by
    rw [← Keyed.mem_iff_find? ascending]
    exact Window.mem_filters_served_iff
  by_cases filters : IsFilterKey resource key
  · rw [if_pos filters]
    by_cases nothing : valuesOf key pairs = []
    · have absent : Keyed.find? key (Window.served now resource pairs bounds).filters = none := by
        refine Option.eq_none_iff_forall_ne_some.2 fun values found => ?_
        obtain ⟨⟨-, some_, rfl⟩, -⟩ := (reads values).1 found
        exact some_ nothing
      rw [absent, nothing, askedBy_nil, Option.bind_none]
    · rw [(reads _).2 ⟨⟨filters.1, nothing, rfl⟩, filters.2⟩, Option.bind_some]
  · rw [if_neg filters]
    have absent : Keyed.find? key (Window.served now resource pairs bounds).filters = none := by
      refine Option.eq_none_iff_forall_ne_some.2 fun values found => ?_
      obtain ⟨⟨free, -, -⟩, untaken⟩ := (reads values).1 found
      exact filters ⟨free, untaken⟩
    rw [absent, Option.bind_none]

end

/-! ## The associations of names -/

namespace Resource

variable {resource : Resource} {names others given : List Text} {name : Text}

theorem mem_named_iff {association : Association}
    (found : resource.association? name = some association) :
    association ∈ resource.named names ↔ name ∈ names := by
  have isNamed {other : Text} (found : resource.association? other = some association) :
      association.name = other := by
    simpa using List.find?_some found
  rw [named, List.mem_filterMap]
  constructor
  · rintro ⟨other, member, found'⟩
    rwa [← isNamed found, isNamed found']
  · exact fun member => ⟨name, member, found⟩

theorem named_append (names others : List Text) :
    resource.named (names ++ others) = resource.named names ++ resource.named others :=
  List.filterMap_append

/-- A name without an association, or one that is there, adds none. -/
theorem named_withName_of_passed
    (passed : resource.association? (lookedUp name) = none ∨ lookedUp name = [] ∨
      lookedUp name ∈ names) :
    resource.named (withName names name) = resource.named names := by
  rw [Parameters.withName_eq]
  split
  · rfl
  · rename_i new
    have lacking := passed.resolve_right new
    rw [named_append, named, named, List.filterMap_cons, lacking, List.filterMap_nil,
      List.append_nil]

theorem named_foldl_of_passed
    (passed : ∀ name ∈ given, resource.association? (lookedUp name) = none ∨ lookedUp name = [] ∨
      lookedUp name ∈ names) :
    resource.named (given.foldl withName names) = resource.named names := by
  induction given generalizing names with
  | nil => rfl
  | cons first rest ih =>
      obtain ⟨here, later⟩ := List.forall_mem_cons.1 passed
      rw [List.foldl_cons, ih, named_withName_of_passed here]
      have kept : ∀ other ∈ names, other ∈ [first].foldl withName names := fun other among =>
        Parameters.mem_foldl_withName.2 (Or.inl among)
      exact fun name member => (later name member).imp_right (Or.imp_right (kept _))

/-- Names that ask for the same associations ask for the same with more names. -/
theorem named_foldl_congr (same : resource.named others = resource.named names)
    (given : List Text) :
    resource.named (given.foldl withName others) = resource.named (given.foldl withName names) := by
  induction given generalizing names others with
  | nil => exact same
  | cons first rest ih =>
      refine ih ?_
      cases found : resource.association? (lookedUp first) with
      | none =>
          rw [named_withName_of_passed (Or.inl found), named_withName_of_passed (Or.inl found),
            same]
      | some association =>
          have among : lookedUp first ∈ others ↔ lookedUp first ∈ names := by
            rw [← mem_named_iff found, same, mem_named_iff found]
          simp only [Parameters.withName_eq, among]
          split
          · exact same
          · rw [named_append, named_append, same]

end Resource

/-! ## Requests that ask for the same -/

/-- Two requests ask a resource for the same, whatever texts they ask it in. -/
structure AsksAlike (resource : Resource) (pairs others : List Pair) : Prop where
  limit : valuesOf limitKey others = valuesOf limitKey pairs
  offset : valuesOf offsetKey others = valuesOf offsetKey pairs
  window : Window.asked? resource others = Window.asked? resource pairs
  filters : ∀ key, IsFilterKey resource key →
    askedBy resource key (valuesOf key others) = askedBy resource key (valuesOf key pairs)
  order : sortedFields resource others = sortedFields resource pairs
  associations : ∀ bounds, resource.named (Parameters.ofPairs others bounds).preload =
    resource.named (Parameters.ofPairs pairs bounds).preload

namespace AsksAlike

variable {resource : Resource} {pairs others : List Pair}

theorem ungrouped_selectionOf (alike : AsksAlike resource pairs others)
    (service : ListingService) (now : Instant) :
    (service.selectionOf now resource others).ungrouped =
      (service.selectionOf now resource pairs).ungrouped := by
  have clauses : (service.selectionOf now resource others).clauses.map Clause.ungrouped =
      (service.selectionOf now resource pairs).clauses.map Clause.ungrouped := by
    refine (ungrouped_compileAll resource _).trans (Eq.trans ?_ (ungrouped_compileAll resource _).symm)
    refine Keyed.filterMap_eq_of_find? (Window.ascending_served _ _ _ _)
      (Window.ascending_served _ _ _ _) (askedBy resource) fun key => ?_
    rw [askedBy_served, askedBy_served]
    split
    · rename_i filters
      exact alike.filters key filters
    · rfl
  have order : (service.selectionOf now resource others).order =
      (service.selectionOf now resource pairs).order := by
    have terms := orderFor_ofPairs resource others service.bounds
    rw [alike.order, ← orderFor_ofPairs resource pairs service.bounds] at terms
    exact terms
  have custom : (service.selectionOf now resource others).custom =
      (service.selectionOf now resource pairs).custom :=
    congrArg (Window.clausesFor now) alike.window
  have limit : (service.selectionOf now resource others).limit =
      (service.selectionOf now resource pairs).limit :=
    congrArg (fun values : List Text => service.bounds.limit values.head?) alike.limit
  have offset : (service.selectionOf now resource others).offset =
      (service.selectionOf now resource pairs).offset :=
    congrArg (fun values : List Text => PageBounds.offset values.head?) alike.offset
  unfold Selection.ungrouped
  rw [clauses, order, custom, limit, offset]
  rfl

/-- **Requests that ask for the same are answered alike**, failures included. -/
theorem list_eq (alike : AsksAlike resource pairs others) (listed : resource ∈ Catalog.resources)
    (service : ListingService) (now : Instant) :
    service.list now resource.name others = service.list now resource.name pairs := by
  have selections := alike.ungrouped_selectionOf service now
  have fetched := Database.fetch_eq_of_ungrouped service.store.database service.store.scan selections
    (alike.associations service.bounds)
  have limit : (service.selectionOf now resource others).limit =
      (service.selectionOf now resource pairs).limit :=
    (congrArg Selection.limit selections :)
  have offset : (service.selectionOf now resource others).offset =
      (service.selectionOf now resource pairs).offset :=
    (congrArg Selection.offset selections :)
  rw [ListingService.list_eq listed, ListingService.list_eq listed, ListingService.page_served,
    ListingService.page_served, alike.window, fetched, limit, offset]

/-- Requests that differ in the values of a filter key, which ask the same either way. -/
theorem of_filter {key : Text} (filters : IsFilterKey resource key)
    (agree : AgreeBut [key] pairs others)
    (same : askedBy resource key (valuesOf key others) =
      askedBy resource key (valuesOf key pairs)) : AsksAlike resource pairs others := by
  have reserved {other : Text} (member : other ∈ reservedKeys) :
      valuesOf other others = valuesOf other pairs := by
    refine agree other fun isKey => filters.1 ?_
    rwa [← List.mem_singleton.1 isKey]
  refine ⟨reserved (by decide), reserved (by decide), ?_, fun other _ => ?_, ?_, fun bounds => ?_⟩
  · unfold Window.asked?
    split
    · rename_i books
      have apart : Window.key ∉ [key] := fun isKey =>
        filters.2 ⟨books, (List.mem_singleton.1 isKey).symm⟩
      rw [agree _ apart]
    · rfl
  · by_cases isKey : other = key
    · rw [isKey, same]
    · rw [agree other (by simpa using isKey)]
  · rw [sortedFields, sortedFields, reserved (by decide)]
  · simp only [Parameters.ofPairs, reserved (by decide : populateKey ∈ reservedKeys)]

/-- Requests that differ in the values of the order or of the associations, which ask the
same either way. -/
theorem of_reserved {key : Text} (reserved : key ∈ [orderKey, populateKey])
    (agree : AgreeBut [key] pairs others)
    (order : sortedFields resource others = sortedFields resource pairs)
    (associations : ∀ bounds, resource.named (Parameters.ofPairs others bounds).preload =
      resource.named (Parameters.ofPairs pairs bounds).preload) :
    AsksAlike resource pairs others := by
  have elsewhere : AgreeBut [orderKey, populateKey] pairs others := agree.of_mem reserved
  have among : ∀ other ∈ [orderKey, populateKey], other ∈ reservedKeys := by decide
  have weaker : AgreeBut reservedKeys pairs others := agree.of_mem (among key reserved)
  exact ⟨elsewhere _ (by decide), elsewhere _ (by decide), Window.asked?_of_agree weaker,
    fun other filters => congrArg (askedBy resource other) (weaker other filters.1), order,
    associations⟩

end AsksAlike

/-! ## Requests without an inert pair -/

theorem sortedFields_append (resource : Resource) (pairs others : List Pair) :
    sortedFields resource (pairs ++ others) =
      sortedFields resource pairs ++ sortedFields resource others := by
  simp only [sortedFields, Parameters.valuesOf_append, List.filterMap_append, List.filter_append]

theorem Inert.asksAlike {resource : Resource} {before : List Pair} {pair : Pair}
    (inert : Inert resource before pair) (after : List Pair) :
    AsksAlike resource (before ++ pair :: after) (before ++ after) := by
  have agree := Parameters.agree_without before pair after
  cases inert with
  | value filters rejected =>
      -- The other values of the key stay, and they keep their conditions.
      refine .of_filter filters agree (askedBy_congr ?_)
      simp only [Parameters.valuesOf_append, Parameters.valuesOf_cons, if_true,
        List.filterMap_append, List.filterMap_cons, rejected]
  | key filters unknown foreign =>
      refine .of_filter filters agree ?_
      rw [askedBy_of_foreign unknown foreign, askedBy_of_foreign unknown foreign]
  | @order value unsorted =>
      have agree : AgreeBut [orderKey] _ _ := agree
      refine .of_reserved (by decide) agree ?_ fun bounds => ?_
      · have nothing : sortedFields resource [(orderKey, value)] = [] := by
          simp only [sortedFields, Parameters.valuesOf, List.filterMap_cons, if_true,
            List.filterMap_nil]
          cases asked : OrderTerm.ofText? value with
          | none => rfl
          | some term => simp [unsorted term asked]
        have split_ : before ++ (orderKey, value) :: after =
            before ++ ([(orderKey, value)] ++ after) := rfl
        rw [split_, sortedFields_append, sortedFields_append, sortedFields_append, nothing,
          List.nil_append]
      · simp only [Parameters.ofPairs, agree populateKey (by decide)]
  | @populate value passed =>
      have agree : AgreeBut [populateKey] _ _ := agree
      refine .of_reserved (by decide) agree ?_ fun bounds => ?_
      · rw [sortedFields, sortedFields, agree orderKey (by decide)]
      · simp only [Parameters.ofPairs, Parameters.valuesOf_append, Parameters.valuesOf_cons,
          if_true, List.flatMap_append, List.flatMap_cons, List.foldl_append]
        -- Behind the names of the earlier pairs, those of this pair add nothing.
        refine Resource.named_foldl_congr (Resource.named_foldl_of_passed ?_).symm _
        intro name member
        refine (passed name member).imp_right ?_
        rintro ⟨earlier, among, other, given, same⟩
        by_cases empty : lookedUp name = []
        · exact Or.inl empty
        · refine Or.inr (Parameters.mem_foldl_withName.2 (Or.inr ⟨empty, other, ?_, same⟩))
          exact List.mem_flatMap.2 ⟨earlier, Parameters.mem_valuesOf.2 among, given⟩

/-- **A request has the same listing without an inert pair**: the same rows with what is
attached to them, the same total and the same page, or the same failure. -/
theorem listing_unchanged_without_inert {resource : Resource}
    (listed : resource ∈ Catalog.resources) (service : ListingService) (now : Instant)
    (before after : List Pair) {pair : Pair} (inert : Inert resource before pair) :
    service.list now resource.name (before ++ after) =
      service.list now resource.name (before ++ pair :: after) :=
  (inert.asksAlike after).list_eq listed service now

/-- The filter of the pages of a genre. -/
def genreFilter : List Pair :=
  [("genre", "fantasy")]

/-- An empty value for the genre. -/
def emptyGenre : Pair :=
  ("genre", "")

/-- Those pages, with the empty value behind the filter. -/
def emptyGenreRequest : List Pair :=
  genreFilter ++ emptyGenre :: (fantasyPage 0).tail

/-- The empty value puts the test of the genre between parentheses; the listing is that of the
request without it. -/
theorem emptyGenre_changes_text_only :
    Catalog.books ∈ Catalog.resources ∧ Inert Catalog.books genreFilter emptyGenre ∧
      (Selection.ofParameters Catalog.books
          (Window.served 0 Catalog.books emptyGenreRequest .standard)).plan.sql ≠
        (Selection.ofParameters Catalog.books
          (Window.served 0 Catalog.books (fantasyPage 0) .standard)).plan.sql ∧
      ∃ listing : Listing, listing.total = 2 ∧
        (serviceOver (emptyCatalog.afterAll writesOfBooks)).list 0 Catalog.books.name
          emptyGenreRequest = .ok (.ok listing) := by
  have listed : Catalog.books ∈ Catalog.resources := by decide
  have inert : Inert Catalog.books genreFilter emptyGenre := .value (by decide) rfl
  have catalog := (reachable_emptyCatalog writesOfBooks).isCatalog
  have count := count_fantasyPage
  refine ⟨listed, inert, by decide +kernel, ?_⟩
  generalize emptyCatalog.afterAll writesOfBooks = db at catalog count ⊢
  obtain ⟨table, found, count⟩ := Option.map_eq_some_iff.1 count
  have unchanged := listing_unchanged_without_inert listed (serviceOver db) 0 genreFilter
    (fantasyPage 0).tail inert
  have answered := answered_fantasyPage catalog found (n := 0) (by decide)
  exact ⟨_, count, unchanged.symm.trans answered⟩

end CatalogListing
