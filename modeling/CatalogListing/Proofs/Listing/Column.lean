/-
# Proofs.Listing.Column -- one more value for a column

The keys of a request that are columns of the catalog name no alternatives, so one more value
for a column is one more test that every row has to pass: the rows that a request matches with
the value are those it matches without it on which the condition of the value is true
(`mem_rowsWith_iff`).  A request without pairs matches every row (`matching_nil`).
-/
import CatalogListing.Proofs.Listing.Answer
import CatalogListing.Proofs.Listing.Narrowing

namespace CatalogListing

set_option autoImplicit false

open CatalogListing.Filter (Condition Renderer columnsOf classify tests isUsable Admits Passes)

namespace Filter

variable {α : Type} {render : Renderer α} {holds : α → Prop}

/-- Without values a key admits everything. -/
theorem admits_nil (key : Text) : Admits render holds key [] :=
  .inl fun _ _ => rfl

variable {column value : Text}

/-- A key of one column admits what all of its tests are true of. -/
theorem admits_single_iff (single : columnsOf column = [column]) (values : List Text) :
    Admits render holds column values ↔
      ∀ test ∈ tests render (values.filterMap classify) column, holds test := by
  unfold Admits Passes
  simp only [single, List.mem_singleton, forall_eq, exists_eq_left]
  by_cases none_ : tests render (values.filterMap classify) column = []
  · simp [none_]
  · simp [none_]

/-- **One more value for a column is one more test.** -/
theorem admits_append_iff (single : columnsOf column = [column]) {condition : Condition}
    (asks : classify value = some condition) {test : α}
    (rendered : render column condition = some test) (values : List Text) :
    Admits render holds column (values ++ [value]) ↔
      Admits render holds column values ∧ holds test := by
  have asked : [value].filterMap classify = [condition] := by simp [asks]
  have alone : tests render [condition] column = [test] := by simp [tests, rendered]
  rw [admits_single_iff single, admits_single_iff single, List.filterMap_append, tests_append,
    asked, alone, List.forall_mem_append, List.forall_mem_singleton]

end Filter

/-! ## Columns of the catalog -/

/-- A key that is a column and nothing else. -/
structure IsColumn (resource : Resource) (column : Text) : Prop where
  known : resource.hasColumn column = true
  usable : isUsable resource.filterable column = true
  single : columnsOf column = [column]
  free : column ∉ reservedKeys
  notWindow : column ≠ Window.key

/-- Every column of the catalog that may be filtered by is a key of its own. -/
theorem Catalog.isColumn {resource : Resource} (listed : resource ∈ Catalog.resources)
    {column : Text} (filterable : column ∈ resource.filterable) : IsColumn resource column := by
  have checked : ∀ resource ∈ Catalog.resources, ∀ column ∈ resource.filterable,
      resource.hasColumn column = true ∧ isUsable resource.filterable column = true ∧
        columnsOf column = [column] ∧ column ∉ reservedKeys ∧ column ≠ Window.key := by
    decide
  obtain ⟨known, usable, single, free, notWindow⟩ := checked resource listed column filterable
  exact ⟨known, usable, single, free, notWindow⟩

/-! ## Rows of one more value -/

/-- A selection that matches what another one does, where something else holds as well. -/
theorem Selection.matching_eq_filter {selection other : Selection} {db : Database} {table : Table}
    {holds : Row → Bool}
    (narrower : ∀ row, row ∈ selection.matching db table ↔
      row ∈ other.matching db table ∧ holds row = true) :
    selection.matching db table = (other.matching db table).filter holds := by
  unfold matching at narrower ⊢
  rw [List.filter_filter]
  refine List.filter_congr fun row member => ?_
  have both := narrower row
  simp only [List.mem_filter, member, true_and] at both
  rw [Bool.eq_iff_iff, both, Bool.and_eq_true, and_comm]

/-- The rows that a request matches with one more value for a column. -/
def rowsWith (service : ListingService) (now : Instant) (resource : Resource) (pairs : List Pair)
    (column : Text) (db : Database) (table : Table) (value : Text) : List Row :=
  (service.selectionOf now resource (pairs ++ [(column, value)])).matching db table

section

variable {service : ListingService} {now : Instant} {resource : Resource} {pairs : List Pair}
  {db : Database} {table : Table} {row : Row}

/-- A row matches when each key admits it with the values that the request has for it, and
every clause of the service is true of it. -/
theorem mem_matching_iff : row ∈ (service.selectionOf now resource pairs).matching db table ↔
    row ∈ table.rows ∧
      (∀ name, name ∉ reservedKeys → ¬ (resource.name = Catalog.books.name ∧ name = Window.key) →
        isUsable resource.filterable name = true →
        Admits (RowTest.ofResource resource) (RowTest.Holds db table.schema row) name
          (Parameters.valuesOf name pairs)) ∧
      ∀ custom ∈ Window.clausesFor now (Window.asked? resource pairs),
        customOutcome db table.schema row custom.1 custom.2 = some true := by
  rw [Selection.matching, List.mem_filter, ListingService.selectionOf, wants_ofParameters_iff]
  refine and_congr_right fun _ => and_congr ⟨fun admits name free left usable => ?_, ?_⟩ Iff.rfl
  · by_cases none_ : Parameters.valuesOf name pairs = []
    · rw [none_]
      exact Filter.admits_nil name
    · exact admits (name, _) (Window.mem_filters_served_iff.2 ⟨⟨free, none_, rfl⟩, left⟩) usable
  · rintro admits ⟨name, values⟩ member usable
    obtain ⟨⟨free, -, rfl⟩, left⟩ := Window.mem_filters_served_iff.1 member
    exact admits name free left usable

/-- A request without pairs matches every row. -/
theorem matching_nil (service : ListingService) (now : Instant) (resource : Resource)
    (db : Database) (table : Table) :
    (service.selectionOf now resource []).matching db table = table.rows := by
  have asked : Window.asked? resource [] = none := by
    unfold Window.asked?
    split <;> rfl
  refine List.filter_eq_self.2 fun row member => ?_
  have matches_ : row ∈ (service.selectionOf now resource []).matching db table := by
    rw [mem_matching_iff, asked]
    exact ⟨member, fun name _ _ _ => Filter.admits_nil name, fun _ none_ => nomatch none_⟩
  exact (List.mem_filter.1 matches_).2

/-- The values of a column with one more. -/
theorem valuesOf_with (column value : Text) :
    Parameters.valuesOf column (pairs ++ [(column, value)]) =
      Parameters.valuesOf column pairs ++ [value] := by
  rw [Parameters.valuesOf_append]
  simp [Parameters.valuesOf]

/-- **One more value for a column** puts its condition on the column into what is asked. -/
theorem mem_asked_with {column value : Text} (isColumn : IsColumn resource column)
    {condition : Condition} (asks : classify value = some condition)
    (other : ∀ text, condition ≠ .fullText text) :
    (RowTest.column column condition).fragment ∈
      (service.selectionOf now resource (pairs ++ [(column, value)])).asked := by
  have rendered := RowTest.ofResource_of_other isColumn.known other
  have filter : (column, Parameters.valuesOf column pairs ++ [value]) ∈
      (Window.served now resource (pairs ++ [(column, value)]) service.bounds).filters :=
    Window.mem_filters_served_iff.2 ⟨⟨isColumn.free, by simp, (valuesOf_with column value).symm⟩,
      fun window => isColumn.notWindow window.2⟩
  have requested : RowTest.column column condition ∈
      Filter.requested (RowTest.ofResource resource) resource.filterable
        (Window.served now resource (pairs ++ [(column, value)]) service.bounds).filters :=
    Filter.mem_requested_iff.2 ⟨_, _, column, value, condition, filter, isColumn.usable,
      by simp [isColumn.single], by simp, asks, rendered⟩
  rw [ListingService.selectionOf, asked_served]
  exact List.mem_append_left _ (List.mem_map_of_mem requested)

/-- **One more value for a column** keeps the rows on which its condition is true. -/
theorem mem_rowsWith_iff {column value : Text} (isColumn : IsColumn resource column)
    {condition : Condition} (asks : classify value = some condition)
    (other : ∀ text, condition ≠ .fullText text) :
    row ∈ rowsWith service now resource pairs column db table value ↔
      row ∈ (service.selectionOf now resource pairs).matching db table ∧
        condition.outcome (table.schema.affinityOf column) (row.value table.schema column) =
          some true := by
  have rendered := RowTest.ofResource_of_other isColumn.known other
  have own := @valuesOf_with pairs column value
  have others {name : Text} (different : name ≠ column) :
      Parameters.valuesOf name (pairs ++ [(column, value)]) = Parameters.valuesOf name pairs := by
    rw [Parameters.valuesOf_append]
    simp [Parameters.valuesOf, different.symm]
  have asked : Window.asked? resource (pairs ++ [(column, value)]) =
      Window.asked? resource pairs := by
    unfold Window.asked?
    rw [others isColumn.notWindow.symm]
  have more := @Filter.admits_append_iff _ _ (RowTest.Holds db table.schema row) _ _
    isColumn.single _ asks _ rendered (Parameters.valuesOf column pairs)
  rw [rowsWith, mem_matching_iff, mem_matching_iff, asked]
  constructor
  · rintro ⟨member, admits, customs⟩
    have last := admits column isColumn.free (fun window => isColumn.notWindow window.2)
      isColumn.usable
    rw [own, more] at last
    refine ⟨⟨member, fun name free left usable => ?_, customs⟩, last.2⟩
    by_cases same : name = column
    · rw [same]
      exact last.1
    · have admitted := admits name free left usable
      rwa [others same] at admitted
  · rintro ⟨⟨member, admits, customs⟩, holds⟩
    refine ⟨member, fun name free left usable => ?_, customs⟩
    by_cases same : name = column
    · subst same
      rw [own, more]
      exact ⟨admits name free left usable, holds⟩
    · rw [others same]
      exact admits name free left usable

/-- The rows of one more value are those of which the condition in the statements is true. -/
theorem mem_rowsWith_iff_outcome? (listed : resource ∈ Catalog.resources)
    (keeps : Keeps table.schema resource) (column value : Text) (member : row ∈ table.rows) :
    row ∈ rowsWith service now resource pairs column db table value ↔
      (service.selectionOf now resource (pairs ++ [(column, value)])).predicate.expand.outcome? db
        table.schema row = some (some true) := by
  rw [service.outcome?_selectionOf now listed _ keeps, Option.some_inj, rowsWith,
    Selection.matching, List.mem_filter, Selection.wants, beq_iff_eq]
  exact and_iff_right member

theorem rowsWith_eq {column value : Text} (isColumn : IsColumn resource column)
    {condition : Condition} (asks : classify value = some condition)
    (other : ∀ text, condition ≠ .fullText text) :
    rowsWith service now resource pairs column db table value =
      ((service.selectionOf now resource pairs).matching db table).filter fun row =>
        condition.outcome (table.schema.affinityOf column) (row.value table.schema column) ==
          some true := by
  refine Selection.matching_eq_filter fun row => ?_
  rw [beq_iff_eq]
  exact mem_rowsWith_iff isColumn asks other

end

end CatalogListing
