/-
# Proofs.Listing.Narrowing -- one more pair of a request

A request with one more filter pair wants no other rows than the request without it
(`more_filters_narrow`), but for one case: the values that an alternative key had so far
test titles only, and the new value tests another column that the key names
(`Revives`).  A column without a test is no alternative, so the key then gains one, and
with it the rows that pass the new value there.
-/
import CatalogListing.Proofs.Store.Match
import CatalogListing.Proofs.Listing.Window
import CatalogListing.Proofs.Store.TitleSearch
import CatalogListing.Proofs.Store.Migrated

namespace CatalogListing

set_option autoImplicit false

open CatalogListing.Filter (Condition Renderer columnsOf classify tests isUsable Admits Passes)

/-! ## One more value -/

namespace Filter

variable {α : Type} {render : Renderer α} {holds : α → Prop} {key : Text} {values : List Text}
  {value : Text}

theorem mem_tests {conditions : List Condition} {column : Text} {test : α} :
    test ∈ tests render conditions column ↔
      ∃ condition ∈ conditions, render column condition = some test :=
  List.mem_filterMap

theorem tests_append (conditions later : List Condition) (column : Text) :
    tests render (conditions ++ later) column =
      tests render conditions column ++ tests render later column :=
  List.filterMap_append

/-- With one more value a column that is an alternative already passes less. -/
theorem Passes.of_append {column : Text} (passes : Passes render holds (values ++ [value]) column)
    (some_ : tests render (values.filterMap classify) column ≠ []) :
    Passes render holds values column := by
  obtain ⟨-, all⟩ := passes
  rw [List.filterMap_append, tests_append] at all
  exact ⟨some_, fun test member => all test (List.mem_append_left _ member)⟩

/-- A column that becomes an alternative by one more value has the test of that value. -/
theorem Passes.of_new {column : Text} (passes : Passes render holds (values ++ [value]) column)
    (none_ : tests render (values.filterMap classify) column = []) :
    ∃ condition test, classify value = some condition ∧ render column condition = some test ∧
      holds test := by
  obtain ⟨some_, all⟩ := passes
  rw [List.filterMap_append, tests_append, none_, List.nil_append] at some_ all
  obtain ⟨test, member⟩ := List.exists_mem_of_ne_nil _ some_
  obtain ⟨condition, accepted, rendered⟩ := mem_tests.1 member
  obtain ⟨other, only, form⟩ := List.mem_filterMap.1 accepted
  rw [List.mem_singleton.1 only] at form
  exact ⟨condition, test, form, rendered, all test member⟩

/-- **One more value of a key admits no more**, unless it makes an alternative of a column
beside those that were. -/
theorem Admits.of_append (admits : Admits render holds key (values ++ [value])) :
    Admits render holds key values ∨
      ∃ column ∈ columnsOf key, tests render (values.filterMap classify) column = [] ∧
        (∃ other ∈ columnsOf key, tests render (values.filterMap classify) other ≠ []) ∧
        ∃ condition test, classify value = some condition ∧
          render column condition = some test ∧ holds test := by
  by_cases nothing : ∀ column ∈ columnsOf key, tests render (values.filterMap classify) column = []
  · exact Or.inl (Or.inl nothing)
  · have alternative : ∃ other ∈ columnsOf key,
        tests render (values.filterMap classify) other ≠ [] := by
      simpa using nothing
    rcases admits with wordless | ⟨column, member, passes⟩
    · refine absurd (fun column member => ?_) nothing
      have none_ := wordless column member
      rw [List.filterMap_append, tests_append] at none_
      exact (List.append_eq_nil_iff.1 none_).1
    · by_cases none_ : tests render (values.filterMap classify) column = []
      · exact Or.inr ⟨column, member, none_, alternative, passes.of_new none_⟩
      · exact Or.inl (Or.inr ⟨column, member, passes.of_append none_⟩)

end Filter

/-! ## Tests of the catalog -/

namespace RowTest

variable {resource : Resource} {column : Text}

theorem hasColumn_of_ofResource {condition : Condition} {test : RowTest}
    (rendered : ofResource resource column condition = some test) :
    resource.hasColumn column = true := by
  unfold ofResource at rendered
  split at rendered
  · cases rendered
  · rename_i known
    simpa using known

/-- A condition that does not ask for full text is a test on every column there is. -/
theorem ofResource_of_other (known : resource.hasColumn column = true) {condition : Condition}
    (other : ∀ text, condition ≠ .fullText text) :
    ofResource resource column condition = some (.column column condition) := by
  unfold ofResource
  rw [known]
  cases condition with
  | fullText text => exact absurd rfl (other text)
  | compare comparison operand => rfl
  | like pattern => rfl
  | member negated items => rfl
  | null negated => rfl

theorem exists_of_dropped (known : resource.hasColumn column = true) {condition : Condition}
    (dropped : ofResource resource column condition = none) :
    ∃ text, condition = .fullText text := by
  apply Classical.byContradiction
  intro other
  rw [ofResource_of_other known fun text same => other ⟨text, same⟩] at dropped
  cases dropped

/-- Full text is a test on the columns with an index, if it has terms. -/
theorem ofResource_fullText_isSome (known : resource.hasColumn column = true) (text : Text) :
    (ofResource resource column (.fullText text)).isSome = true ↔
      (∃ index, resource.indexOf? column = some index) ∧ FullText.terms text ≠ [] := by
  have query := query?_eq text
  simp only [ofResource, known, Bool.not_true, Bool.false_eq_true, if_false]
  cases resource.indexOf? column with
  | none => simp
  | some index =>
      by_cases none_ : FullText.terms text = []
      · rw [if_pos none_] at query
        simp [query, none_]
      · rw [if_neg none_] at query
        simp [query, none_]

end RowTest

/-- Of all columns of the catalog, only the titles of books have an index. -/
theorem Catalog.eq_of_indexOf? {resource : Resource} (listed : resource ∈ Catalog.resources)
    {column : Text} {index : FullTextIndex} (found : resource.indexOf? column = some index) :
    resource = Catalog.books ∧ column = Database.indexedColumn := by
  simp only [Catalog.resources, List.mem_cons, List.not_mem_nil, or_false] at listed
  rcases listed with rfl | rfl | rfl
  · cases found
  · have covers := (Option.filter_eq_some_iff.1 found).2
    obtain rfl : index = ⟨"books_fts", ["title"]⟩ :=
      (Option.some.inj (Option.filter_eq_some_iff.1 found).1).symm
    exact ⟨rfl, List.mem_singleton.1 (List.contains_iff_mem.1 covers)⟩
  · cases found

/-! ## One more pair -/

theorem Text.piecesAtPair_of_not_contains {first second : Char} (text : Text)
    (absent : Text.contains [first, second] text = false) :
    Text.piecesAtPair first second text = [text] := by
  fun_induction Text.piecesAtPair first second text with
  | case1 => rfl
  | case2 c => rfl
  | case3 c d rest pair ih =>
      obtain ⟨rfl, rfl⟩ := pair
      simp [Text.contains, List.isPrefixOf] at absent
  | case4 c d rest apart nothing ih =>
      rw [Text.contains, Bool.or_eq_false_iff] at absent
      rw [ih absent.2] at nothing
      cases nothing
  | case5 c d rest apart part parts split ih =>
      rw [Text.contains, Bool.or_eq_false_iff] at absent
      rw [ih absent.2] at split
      cases split
      rfl

/-- A key that names two columns names alternatives. -/
theorem Filter.namesAlternatives_of_ne {key column other : Text} (first : column ∈ columnsOf key)
    (second : other ∈ columnsOf key) (different : column ≠ other) :
    namesAlternatives key = true := by
  cases absent : namesAlternatives key with
  | true => rfl
  | false =>
      rw [columnsOf, Text.piecesAtPair_of_not_contains key absent] at first second
      have same := List.mem_singleton.1 (List.mem_filter.1 first).1
      have same' := List.mem_singleton.1 (List.mem_filter.1 second).1
      exact absurd (same.trans same'.symm) different

/-- The values that a key of a request has so far test titles only, and one more value
tests another column that the key names. -/
structure Revives (resource : Resource) (pairs : List Pair) (key value column : Text)
    (condition : Condition) : Prop where
  books : resource = Catalog.books
  alternatives : Filter.namesAlternatives key = true
  titled : Database.indexedColumn ∈ columnsOf key
  named : column ∈ columnsOf key
  known : resource.hasColumn column = true
  untitled : column ≠ Database.indexedColumn
  earlier : ∀ given ∈ Parameters.valuesOf key pairs, ∀ form, classify given = some form →
    ∃ text, form = .fullText text
  searched : ∃ given ∈ Parameters.valuesOf key pairs, ∃ text,
    classify given = some (.fullText text) ∧ FullText.terms text ≠ []
  accepted : classify value = some condition
  other : ∀ text, condition ≠ .fullText text

/-- In the catalog a column becomes an alternative only beside the title. -/
theorem revives_of_new {resource : Resource} (listed : resource ∈ Catalog.resources)
    {pairs : List Pair} {key value column : Text} (member : column ∈ columnsOf key)
    (none_ : tests (RowTest.ofResource resource)
      ((Parameters.valuesOf key pairs).filterMap classify) column = [])
    (some_ : ∃ other ∈ columnsOf key, tests (RowTest.ofResource resource)
      ((Parameters.valuesOf key pairs).filterMap classify) other ≠ [])
    {condition : Condition} {test : RowTest} (accepted : classify value = some condition)
    (rendered : RowTest.ofResource resource column condition = some test) :
    Revives resource pairs key value column condition ∧ test = .column column condition := by
  have known := RowTest.hasColumn_of_ofResource rendered
  have dropped : ∀ given ∈ Parameters.valuesOf key pairs, ∀ form, classify given = some form →
      RowTest.ofResource resource column form = none := by
    intro given supplied form isForm
    rw [tests, List.filterMap_eq_nil_iff] at none_
    exact none_ form (List.mem_filterMap.2 ⟨given, supplied, isForm⟩)
  have earlier : ∀ given ∈ Parameters.valuesOf key pairs, ∀ form, classify given = some form →
      ∃ text, form = .fullText text := fun given supplied form isForm =>
    RowTest.exists_of_dropped known (dropped given supplied form isForm)
  -- The alternative that there was has an index, and this column has none.
  obtain ⟨other, inKey, worded⟩ := some_
  obtain ⟨first, held⟩ := List.exists_mem_of_ne_nil _ worded
  obtain ⟨form, isAccepted, isTest⟩ := Filter.mem_tests.1 held
  obtain ⟨given, supplied, isForm⟩ := List.mem_filterMap.1 isAccepted
  obtain ⟨text, rfl⟩ := earlier given supplied form isForm
  have knownOther := RowTest.hasColumn_of_ofResource isTest
  obtain ⟨⟨index, found⟩, terms⟩ :=
    (RowTest.ofResource_fullText_isSome knownOther text).1 (by rw [isTest]; rfl)
  obtain ⟨books, rfl⟩ := Catalog.eq_of_indexOf? listed found
  have unindexed : resource.indexOf? column = none := by
    apply Option.eq_none_iff_forall_not_mem.2
    intro index' found'
    have isSome := (RowTest.ofResource_fullText_isSome known text).2 ⟨⟨index', found'⟩, terms⟩
    rw [dropped given supplied _ isForm] at isSome
    cases isSome
  have untitled : column ≠ Database.indexedColumn := by
    rintro rfl
    cases found.symm.trans unindexed
  have otherForm : ∀ text, condition ≠ .fullText text := by
    rintro text rfl
    obtain ⟨⟨index', found'⟩, -⟩ :=
      (RowTest.ofResource_fullText_isSome known text).1 (by rw [rendered]; rfl)
    cases found'.symm.trans unindexed
  have alternatives := Filter.namesAlternatives_of_ne member inKey untitled
  refine ⟨⟨books, alternatives, inKey, member, known, untitled, earlier, ?_, accepted, otherForm⟩, ?_⟩
  · exact ⟨given, supplied, text, isForm, terms⟩
  · exact Option.some.inj (rendered.symm.trans (RowTest.ofResource_of_other known otherForm))

namespace Window

variable {now : Instant} {resource : Resource} {pairs later : List Pair} {bounds : PageBounds}

/-- The window of a request with more pairs starts in the calendar, so without them it
does as well. -/
theorem isInCalendar_of_append (inCalendar : isInCalendar now (asked? resource (pairs ++ later))) :
    isInCalendar now (asked? resource pairs) = true := by
  cases asked : asked? resource pairs with
  | none => rfl
  | some days => rwa [asked?_append asked] at inCalendar

/-- The clauses of the service stay with more pairs. -/
theorem custom_subset_of_append :
    (served now resource pairs bounds).custom ⊆
      (served now resource (pairs ++ later) bounds).custom := by
  simp only [served]
  cases asked : asked? resource pairs with
  | none => exact List.nil_subset _
  | some days =>
      rw [asked?_append asked]
      exact List.Subset.refl _

/-- The filters stay with more pairs, with more values. -/
theorem mem_filters_append {name : Text} {values : List Text}
    (member : (name, values) ∈ (served now resource pairs bounds).filters) :
    (name, values ++ Parameters.valuesOf name later) ∈
      (served now resource (pairs ++ later) bounds).filters := by
  obtain ⟨⟨free, some_, rfl⟩, left⟩ := mem_filters_served_iff.1 member
  refine mem_filters_served_iff.2 ⟨⟨free, List.append_ne_nil_of_left_ne_nil some_ _, ?_⟩, left⟩
  rw [Parameters.valuesOf_append]

end Window

/-- **More filters narrow.**  A row that a request for a resource of the catalog wants
with one more filter pair it wants without the pair, or the pair revives an alternative
whose test the row passes. -/
theorem more_filters_narrow {resource : Resource} (listed : resource ∈ Catalog.resources)
    (now : Instant) (bounds : PageBounds) (pairs : List Pair) (key value : Text)
    {more : Parameters}
    (applied : Window.apply now resource (.ofPairs (pairs ++ [(key, value)]) bounds) = .ok more) :
    ∃ parameters, Window.apply now resource (.ofPairs pairs bounds) = .ok parameters ∧
      ∀ (db : Database) (table : Table),
        ∀ row ∈ (Selection.ofParameters resource more).matching db table,
          row ∈ (Selection.ofParameters resource parameters).matching db table ∨
            ∃ column condition, Revives resource pairs key value column condition ∧
              (RowTest.column column condition).outcome db table.schema row = some true := by
  obtain ⟨inCalendar, rfl⟩ := (Window.apply_eq_ok_iff _ _ _ _ _).1 applied
  refine ⟨Window.served now resource pairs bounds, (Window.apply_eq_ok_iff _ _ _ _ _).2
    ⟨Window.isInCalendar_of_append inCalendar, rfl⟩, ?_⟩
  intro db table row member
  obtain ⟨inTable, wanted⟩ := List.mem_filter.1 member
  obtain ⟨filters, customs⟩ := (wants_ofParameters_iff _ _).1 wanted
  by_cases revived : ∃ column condition, Revives resource pairs key value column condition ∧
      (RowTest.column column condition).outcome db table.schema row = some true
  · exact Or.inr revived
  · refine Or.inl (List.mem_filter.2 ⟨inTable, (wants_ofParameters_iff _ _).2 ⟨?_, ?_⟩⟩)
    · rintro ⟨name, values⟩ inFilters usable
      have admits := filters _ (Window.mem_filters_append inFilters) usable
      obtain ⟨-, rfl⟩ := Window.mem_filters_served inFilters
      by_cases same : name = key
      · subst same
        have one : Parameters.valuesOf name [(name, value)] = [value] := by
          simp [Parameters.valuesOf]
        rw [one] at admits
        rcases admits.of_append with before | ⟨column, named, none_, some_, condition, test,
          accepted, rendered, holds⟩
        · exact before
        · obtain ⟨revives, rfl⟩ := revives_of_new listed named none_ some_ accepted rendered
          exact absurd ⟨column, condition, revives, holds⟩ revived
      · have nothing : Parameters.valuesOf name [(key, value)] = [] := by
          simp [Parameters.valuesOf, Ne.symm same]
        rwa [nothing, List.append_nil] at admits
    · intro custom inCustoms
      exact customs custom (Window.custom_subset_of_append inCustoms)

/-- Books of a genre. -/
def genreRequest : List Pair :=
  [("genre", "fantasy")]

/-- Books published within some days. -/
def withinDays : Pair :=
  (Window.key, "30")

/-- The books of a genre that were published within some days are books of this genre. -/
theorem genreRequest_narrows_within_days :
    Catalog.books ∈ Catalog.resources ∧
      ∃ parameters, Window.apply 0 Catalog.books (.ofPairs genreRequest .standard) =
        .ok parameters ∧
      ∃ more, Window.apply 0 Catalog.books
          (.ofPairs (genreRequest ++ [withinDays]) .standard) = .ok more ∧
        more.custom ≠ [] ∧
        ∀ (db : Database) (table : Table),
          (Selection.ofParameters Catalog.books more).matching db table ⊆
            (Selection.ofParameters Catalog.books parameters).matching db table := by
  have listed : Catalog.books ∈ Catalog.resources := by decide
  have inCalendar : Window.isInCalendar 0
      (Window.asked? Catalog.books (genreRequest ++ [withinDays])) = true := by
    decide +kernel
  have applied := (Window.apply_eq_ok_iff 0 Catalog.books (genreRequest ++ [withinDays])
    .standard _).2 ⟨inCalendar, rfl⟩
  obtain ⟨parameters, before, narrows⟩ :=
    more_filters_narrow listed 0 .standard genreRequest Window.key "30" applied
  refine ⟨listed, parameters, before, _, applied, by decide +kernel, fun db table row member => ?_⟩
  rcases narrows db table row member with kept | ⟨column, condition, revives, -⟩
  · exact kept
  · exact absurd revives.alternatives (by decide)

/-- An author with two books. -/
def writesOfBooks : List Write :=
  [.insert Tables.authors.name [("id", .integer 2), ("name", .text "A"),
      ("created_at", .text "2024-01-01")],
    .insert Tables.books.name [("id", .integer 3), ("author_id", .integer 2),
      ("title", .text "Guards! Guards!"), ("genre", .text "fantasy"), ("price", .integer 1),
      ("published_at", .text "1989-11-01")],
    .insert Tables.books.name [("id", .integer 4), ("author_id", .integer 2),
      ("title", .text "Small Gods"), ("genre", .text "fantasy"), ("price", .integer 1),
      ("published_at", .text "1992-05-01")]]

/-- The books with a word in their title or genre; genres have no index. -/
def wordRequest : List Pair :=
  [("title||genre", "m[gods]m")]

/-- The same key with a value that is no full text. -/
def alternativeGenre : Pair :=
  ("title||genre", "fantasy")

/-- One more value of the key makes an alternative of the genre, and another book comes. -/
theorem wordRequest_gains_by_genre :
    Catalog.books ∈ Catalog.resources ∧ alternativeGenre.1 ∉ reservedKeys ∧
      ∃ parameters, Window.apply 0 Catalog.books (.ofPairs wordRequest .standard) =
        .ok parameters ∧
      ∃ more, Window.apply 0 Catalog.books
          (.ofPairs (wordRequest ++ [alternativeGenre]) .standard) = .ok more ∧
      ∃ table, (emptyCatalog.afterAll writesOfBooks).table? Tables.books.name = some table ∧
        ((Selection.ofParameters Catalog.books parameters).matching
          (emptyCatalog.afterAll writesOfBooks) table).map (·.key) = [4] ∧
        ((Selection.ofParameters Catalog.books more).matching
          (emptyCatalog.afterAll writesOfBooks) table).map (·.key) = [3, 4] ∧
        ¬ (Selection.ofParameters Catalog.books more).matching
            (emptyCatalog.afterAll writesOfBooks) table ⊆
          (Selection.ofParameters Catalog.books parameters).matching
            (emptyCatalog.afterAll writesOfBooks) table := by
  have keys : ((emptyCatalog.afterAll writesOfBooks).table? Tables.books.name).map
      (fun table =>
        (((Selection.ofParameters Catalog.books (.ofPairs wordRequest .standard)).matching
          (emptyCatalog.afterAll writesOfBooks) table).map (·.key),
        ((Selection.ofParameters Catalog.books
          (.ofPairs (wordRequest ++ [alternativeGenre]) .standard)).matching
            (emptyCatalog.afterAll writesOfBooks) table).map (·.key))) =
      some (([4], [3, 4]) : List Int × List Int) := by
    rw [emptyCatalog, Migration.run_empty]
    decide +kernel
  generalize emptyCatalog.afterAll writesOfBooks = db at keys ⊢
  obtain ⟨table, found, both⟩ := Option.map_eq_some_iff.1 keys
  obtain ⟨before, after⟩ := Prod.mk.inj both
  refine ⟨by decide, by decide, _, rfl, _, rfl, table, found, before, after, fun subset => ?_⟩
  have gained : (3 : Int) ∈ [4] := by
    rw [← before]
    exact List.map_subset _ subset (by rw [after]; exact List.mem_cons_self)
  exact absurd gained (by decide)

end CatalogListing
