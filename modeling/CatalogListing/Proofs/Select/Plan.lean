/-
# Proofs.Select.Plan -- what the statements of a listing bind and name

Both statements of a listing share one condition.  It is laid out from the tests that
the filters of the request ask for and the window of the service, in that order, so
each argument is bound where its test stands, and no name comes from the request.

* `RowTest.sound`: a test has one placeholder exactly when it has a parameter, and names
  only what its resource has;
* `Selection.predicate_laid`: the condition is the fragments of a selection in order;
* `plan_binds_where_asked`: the statements of a request, as a whole.
-/
import CatalogListing.Proofs.Filter.Placement
import CatalogListing.Proofs.Listing.Window
import CatalogListing.Select.Plan

namespace CatalogListing

set_option autoImplicit false

open CatalogListing.Filter (Clause Condition requested)
open Sql (Fragment Parameter Argument Laid Reads backtick positions)

/-! ## Names -/

/-- The names that the statements of a resource may have. -/
inductive MayName (resource : Resource) : Text → Prop where
  | table : MayName resource resource.table
  | primaryKey : MayName resource resource.primaryKey
  | column {name : Text} : name ∈ resource.columns → MayName resource name
  | index {index : FullTextIndex} :
      resource.fullText = some index → MayName resource index.table
  | sortable {name : Text} : name ∈ resource.sortable → MayName resource name
  | publishedAt : MayName resource "published_at"

/-! ## Tests -/

theorem backtick_notMem_test (condition : Condition) : backtick ∉ ' ' :: condition.test := by
  rw [← Filter.Condition.test_bare_shape]
  exact condition.shape.plain

theorem count_test (condition : Condition) :
    (' ' :: condition.test).count '?' = condition.parameter?.toList.length := by
  cases condition with
  | compare comparison operand => cases comparison <;> rfl
  | like pattern => rfl
  | member negated items => cases negated <;> rfl
  | null negated => cases negated <;> rfl
  | fullText words => rfl

/-- A condition on an allowed column is sound. -/
theorem sound_fragment {allowed : Text → Prop} {column : Text} (isAllowed : allowed column)
    (condition : Condition) : (condition.fragment (Sql.quote column)).Sound allowed := by
  have test : Reads allowed (' ' :: condition.test) _ :=
    .plain (backtick_notMem_test condition)
  rw [count_test] at test
  exact test.quote isAllowed rfl

/-- The search for a text finds rows by the names of a resource. -/
theorem RowTest.sound_indexed {allowed : Text → Prop} {table key index name : Text}
    (isTable : allowed table) (isKey : allowed key) (isIndex : allowed index)
    (isName : allowed name) (query : Text) :
    (RowTest.indexed table key index name query).fragment.Sound allowed := by
  have matching : Reads allowed " MATCH ?)" 1 := .fixed (by decide +kernel)
  have column := matching.quote isName rfl
  have condition : Reads allowed " WHERE " 0 := .fixed (by decide +kernel)
  have found := (condition.append column).quote isIndex rfl
  have selecting : Reads allowed " IN (SELECT rowid FROM " 0 := .fixed (by decide +kernel)
  have rows := (selecting.append found).quote isKey rfl
  have dot : Reads allowed ['.'] 0 := .fixed (by decide +kernel)
  have whole := (dot.append rows).quote isTable rfl
  simp only [Nat.zero_add] at whole
  have text : (RowTest.indexed table key index name query).fragment.sql =
      Sql.quote table ++ (['.'] ++ (Sql.quote key ++ (" IN (SELECT rowid FROM " ++
        (Sql.quote index ++ (" WHERE " ++ (Sql.quote name ++ " MATCH ?)")))))) := by
    simp only [RowTest.fragment, List.append_assoc, List.cons_append, List.nil_append]
  rw [Fragment.Sound, text]
  exact whole

/-- **A test names only what its resource has.** -/
theorem RowTest.sound {resource : Resource} {column : Text} {condition : Condition}
    {test : RowTest} (rendered : RowTest.ofResource resource column condition = some test) :
    test.fragment.Sound (MayName resource) := by
  simp only [RowTest.ofResource] at rendered
  split at rendered
  · cases rendered
  · rename_i known
    have isColumn : MayName resource column := by
      simp only [Resource.hasColumn, Bool.not_eq_true, Bool.not_eq_false'] at known
      exact .column (by simpa using known)
    split at rendered
    · split at rendered
      · rename_i index query found asks
        obtain rfl := Option.some.inj rendered
        exact sound_indexed .table .primaryKey (.index (Option.filter_eq_some_iff.1 found).1)
          isColumn query
      · cases rendered
    · obtain rfl := Option.some.inj rendered
      exact sound_fragment isColumn _

/-! ## The condition -/

/-- The fragments of the service's own clauses, each with its parameter. -/
def ownFragments (custom : Keyed (List Parameter)) : List Fragment :=
  custom.map fun entry => ⟨entry.1, entry.2.head?⟩

/-- The fragments that the condition of a selection is made of, in order. -/
def Selection.asked (selection : Selection) : List Fragment :=
  (selection.clauses.flatMap Clause.tests).map RowTest.fragment ++ ownFragments selection.custom

/-- The service's own clauses, each between parentheses. -/
theorem own_laid (custom : Keyed (List Parameter)) :
    ∃ layouts : List (Text × List Fragment),
      layouts.map (·.1) = (custom.map fun entry => Filter.parenthesized entry.1) ∧
      layouts.flatMap (·.2) = ownFragments custom ∧
      ∀ layout ∈ layouts, Laid Fragment.sql layout.1 layout.2 := by
  refine ⟨custom.map fun entry => (Filter.parenthesized entry.1, [⟨entry.1, entry.2.head?⟩]),
    ?_, ?_, ?_⟩
  · simp [Function.comp_def]
  · rw [List.flatMap_map, ownFragments, List.map_eq_flatMap]
  · intro layout member
    obtain ⟨entry, -, rfl⟩ := List.mem_map.1 member
    exact (Laid.single (⟨entry.1, entry.2.head?⟩ : Fragment)).parenthesized

/-- **The condition is laid out from what was asked.** -/
theorem Selection.predicate_laid (selection : Selection) :
    Laid Fragment.sql selection.predicate.condition selection.asked := by
  obtain ⟨compiled, -⟩ := Filter.predicateOf_laid RowTest.fragment selection.clauses
  obtain ⟨layouts, texts, parts, own⟩ := own_laid selection.custom
  simp only [predicate, asked, ← texts, ← parts]
  split
  · rename_i nothing
    have empty : (Filter.predicateOf RowTest.fragment selection.clauses).condition = [] := by
      simpa [Sql.Predicate.isEmpty] using nothing
    rw [empty] at compiled
    exact compiled.append (.intercalate Filter.glue_and own)
  · let first : Text × List Fragment :=
      ((Filter.predicateOf RowTest.fragment selection.clauses).condition,
        (selection.clauses.flatMap Clause.tests).map RowTest.fragment)
    have all : ∀ layout ∈ first :: layouts, Laid Fragment.sql layout.1 layout.2 := by
      intro layout member
      rcases List.mem_cons.1 member with rfl | later
      · exact compiled
      · exact own layout later
    exact .intercalate Filter.glue_and all

/-- With at most one parameter in each of the service's own clauses, the parameters are
those of the fragments. -/
theorem Selection.parameters_predicate (selection : Selection)
    (single : ∀ entry ∈ selection.custom, entry.2.length ≤ 1) :
    selection.predicate.parameters =
      selection.asked.flatMap fun one => one.parameter.toList := by
  obtain ⟨-, parameters⟩ := Filter.predicateOf_laid RowTest.fragment selection.clauses
  have own : (selection.custom.flatMap fun entry => entry.2) =
      (ownFragments selection.custom).flatMap fun one => one.parameter.toList := by
    rw [ownFragments, List.flatMap_map]
    refine List.flatMap_congr fun entry member => ?_
    match values : entry.2 with
    | [] => rfl
    | [value] => rfl
    | first :: second :: rest =>
        have few := single entry member
        simp [values] at few
  rw [predicate, parameters, own, asked, List.flatMap_append]

/-! ## The statements -/

/-- The table and the condition of a selection. -/
def sourceSql (table condition : Text) : Text :=
  "FROM " ++ Sql.quote table ++ Selection.optional " WHERE " condition

theorem optional_nil (keyword : Text) : Selection.optional keyword [] = [] := rfl

theorem optional_of_ne_nil (keyword : Text) {text : Text} (something : text ≠ []) :
    Selection.optional keyword text = keyword ++ text := by
  have nonempty : text.isEmpty = false := by simpa using something
  rw [Selection.optional, nonempty]
  rfl

theorem reads_source {allowed : Text → Prop} {table condition rest : Text} {count more : Nat}
    (isTable : allowed table) (reads : Reads allowed condition count)
    (later : Reads allowed rest more) (apart : Reads.goesOnApart rest = true) :
    Reads allowed (sourceSql table condition ++ rest) (count + more) := by
  have opening : Reads allowed "FROM " 0 := .fixed (by decide +kernel)
  unfold sourceSql
  by_cases nothing : condition = []
  · subst nothing
    have none_ : count = 0 := reads.countPlaceholders_eq.symm
    rw [optional_nil, List.append_nil, List.append_assoc, none_]
    exact opening.append (later.quote isTable apart)
  · have restricting : Reads allowed " WHERE " 0 := .fixed (by decide +kernel)
    have whole := opening.append ((restricting.append (reads.append later)).quote isTable rfl)
    rw [Nat.zero_add, Nat.zero_add] at whole
    rw [optional_of_ne_nil _ nothing, List.append_assoc, List.append_assoc, List.append_assoc]
    exact whole

theorem reads_order {allowed : Text → Prop} {terms : List OrderTerm}
    (names : ∀ term ∈ terms, allowed term.field) :
    Reads allowed (List.intercalate ", " (terms.map OrderTerm.sql)) 0 := by
  let layouts : List (Text × List OrderTerm) := terms.map fun term => (term.sql, [term])
  have laid : ∀ layout ∈ layouts, Laid OrderTerm.sql layout.1 layout.2 := by
    intro layout member
    obtain ⟨term, -, rfl⟩ := List.mem_map.1 member
    exact .single term
  have glue : Sql.Glue ", " := by decide
  have joined := Laid.intercalate glue laid
  have texts : layouts.map (·.1) = terms.map OrderTerm.sql := by
    simp [layouts, Function.comp_def]
  have parts : layouts.flatMap (·.2) = terms := by simp [layouts, List.flatMap_map]
  rw [texts, parts] at joined
  have closed : ∀ term ∈ terms, Reads allowed term.sql ([] : List Argument).length := by
    intro term member
    have direction : Reads allowed (if term.descending then " DESC" else " ASC" : String) 0 := by
      cases term.descending
      · exact .fixed (by decide +kernel)
      · exact .fixed (by decide +kernel)
    refine direction.quote (names term member) ?_
    cases term.descending <;> rfl
  have whole := joined.reads closed
  rwa [List.flatMap_eq_nil_iff.2 fun _ _ => rfl] at whole

theorem mayName_order {resource : Resource} {terms : List OrderTerm} {term : OrderTerm}
    (member : term ∈ Selection.orderFor resource terms) : MayName resource term.field := by
  simp only [Selection.orderFor] at member
  split at member
  · obtain rfl := List.mem_singleton.1 member
    exact .primaryKey
  · rename_i sortable
    have kept := (List.mem_filter.1 member).2
    exact .sortable (by simpa [Resource.isSortable] using kept)

/-- The text of the page of a selection without passthrough. -/
def pageSql (selection : Selection) (condition : Text) : Text :=
  "SELECT " ++ (Sql.quote selection.resource.table ++ ['.', '*']) ++
    ' ' :: sourceSql selection.resource.table condition ++ " ORDER BY " ++
    List.intercalate ", " (selection.order.map OrderTerm.sql) ++ " LIMIT ? OFFSET ?"

/-- The text of the count of a selection without passthrough. -/
def totalSql (selection : Selection) (condition : Text) : Text :=
  "SELECT COUNT(*) FROM (SELECT 1 " ++ sourceSql selection.resource.table condition ++ [')']

theorem fromSql_eq {selection : Selection} (bare : selection.passthrough = {})
    (condition : Text) :
    selection.fromSql condition = sourceSql selection.resource.table condition := by
  unfold Selection.fromSql
  rw [bare]
  simp only [Option.getD_none]
  simp only [optional_nil, List.append_nil]
  unfold sourceSql
  rfl

theorem plan_eq {selection : Selection} (bare : selection.passthrough = {}) :
    selection.plan.sql = pageSql selection selection.predicate.expand.sql ∧
      selection.plan.countSql = totalSql selection selection.predicate.expand.sql := by
  have columns : selection.columnsSql = Sql.quote selection.resource.table ++ ['.', '*'] := by
    unfold Selection.columnsSql
    rw [bare]
  unfold Selection.plan
  simp only [fromSql_eq bare, columns]
  unfold pageSql totalSql
  exact ⟨rfl, rfl⟩

theorem reads_pageSql {selection : Selection} {allowed : Text → Prop} {condition : Text}
    {count : Nat} (isTable : allowed selection.resource.table)
    (names : ∀ term ∈ selection.order, allowed term.field)
    (reads : Reads allowed condition count) :
    Reads allowed (pageSql selection condition) (count + 2) := by
  have page : Reads allowed " LIMIT ? OFFSET ?" 2 := .fixed (by decide +kernel)
  have ordering : Reads allowed " ORDER BY " 0 := .fixed (by decide +kernel)
  have ordered := ordering.append ((reads_order names).append page)
  have source := reads_source isTable reads ordered rfl
  have star : Reads allowed ['.', '*', ' '] 0 := .fixed (by decide)
  have selecting : Reads allowed "SELECT " 0 := .fixed (by decide +kernel)
  have whole := selecting.append ((star.append source).quote isTable rfl)
  simp only [Nat.zero_add] at whole
  unfold pageSql
  simp only [List.append_assoc, List.cons_append, List.nil_append] at whole ⊢
  exact whole

theorem reads_totalSql {selection : Selection} {allowed : Text → Prop} {condition : Text}
    {count : Nat} (isTable : allowed selection.resource.table)
    (reads : Reads allowed condition count) :
    Reads allowed (totalSql selection condition) count := by
  have closing : Reads allowed [')'] 0 := .fixed (by decide)
  have counting : Reads allowed "SELECT COUNT(*) FROM (SELECT 1 " 0 :=
    .fixed (by decide +kernel)
  have whole := counting.append (reads_source isTable reads closing rfl)
  simp only [Nat.zero_add, Nat.add_zero] at whole
  unfold totalSql
  simp only [List.append_assoc] at whole ⊢
  exact whole

/-! ## Requests -/

/-- The test on published books that the window of the service is. -/
def windowFragment (now : Instant) (days : Nat) : Fragment :=
  ⟨Window.clause, some (.text (Calendar.timestamp (Window.start now days)))⟩

/-- A part of the condition of a request: what one of its values asks of one column of
its key, or the window of the service. -/
inductive Asks (now : Instant) (resource : Resource) (pairs : List Pair) : Fragment → Prop where
  | value {key value column : Text} {condition : Condition} {test : RowTest} :
      (key, value) ∈ pairs → key ∉ reservedKeys →
      Filter.isUsable resource.filterable key = true → column ∈ Filter.columnsOf key →
      Filter.classify value = some condition →
      RowTest.ofResource resource column condition = some test →
      Asks now resource pairs test.fragment
  | window {days : Nat} :
      Window.asked? resource pairs = some days →
      Asks now resource pairs (windowFragment now days)

theorem Asks.sound {now : Instant} {resource : Resource} {pairs : List Pair} {one : Fragment}
    (asks : Asks now resource pairs one) : one.Sound (MayName resource) := by
  cases asks with
  | value _ _ _ _ _ rendered => exact RowTest.sound rendered
  | window _ =>
      have comparing : Reads (MayName resource) " >= ?" 1 := .fixed (by decide +kernel)
      exact comparing.quote .publishedAt rfl

/-- What the parameters that reach the store ask for, in order. -/
theorem asked_served (now : Instant) (resource : Resource) (pairs : List Pair)
    (bounds : PageBounds) :
    (Selection.ofParameters resource (Window.served now resource pairs bounds)).asked =
      (requested (RowTest.ofResource resource) resource.filterable
        (Window.served now resource pairs bounds).filters).map RowTest.fragment ++
      (Window.asked? resource pairs).toList.map (windowFragment now) := by
  rw [Selection.asked, Selection.ofParameters, Filter.flatMap_tests_compileAll]
  congr 1
  simp only [Window.served]
  cases Window.asked? resource pairs <;> rfl

theorem asks_of_mem_asked {now : Instant} {resource : Resource} {pairs : List Pair}
    {bounds : PageBounds} {one : Fragment}
    (member : one ∈
      (Selection.ofParameters resource (Window.served now resource pairs bounds)).asked) :
    Asks now resource pairs one := by
  rw [asked_served] at member
  rcases List.mem_append.1 member with test | own
  · obtain ⟨test, testMember, rfl⟩ := List.mem_map.1 test
    obtain ⟨key, values, column, value, condition, filter, usable, named, among, form,
      rendered⟩ := Filter.mem_requested_iff.1 testMember
    obtain ⟨free, rfl⟩ := Window.mem_filters_served filter
    exact .value (Parameters.mem_valuesOf.1 among) free usable named form rendered
  · obtain ⟨days, daysMember, rfl⟩ := List.mem_map.1 own
    exact .window (Option.mem_toList.1 daysMember)

/-- What is run for a request is laid out from the expanded fragments, with their arguments. -/
theorem expand_served (now : Instant) (resource : Resource) (pairs : List Pair)
    (bounds : PageBounds) :
    let selection := Selection.ofParameters resource (Window.served now resource pairs bounds)
    Laid (fun one => one.expand.sql) selection.predicate.expand.sql selection.asked ∧
      selection.predicate.expand.arguments = selection.asked.flatMap Fragment.arguments := by
  intro selection
  have sound : ∀ one ∈ selection.asked, one.Sound (MayName resource) :=
    fun one member => (asks_of_mem_asked member).sound
  have single : ∀ entry ∈ selection.custom, entry.2.length ≤ 1 := fun entry member =>
    Nat.le_of_eq (Window.length_of_mem_clausesFor member)
  rw [Sql.Predicate.expand, selection.parameters_predicate single]
  exact selection.predicate_laid.expand sound

/-- A fragment with one argument is posed with it. -/
theorem poses_of_mem_asked {now : Instant} {resource : Resource} {pairs : List Pair}
    {bounds : PageBounds} {one : Fragment}
    (member : one ∈
      (Selection.ofParameters resource (Window.served now resource pairs bounds)).asked)
    {argument : Argument} (only : one.arguments = [argument]) :
    (Selection.ofParameters resource
      (Window.served now resource pairs bounds)).predicate.expand.Poses one.expand.sql
        argument := by
  obtain ⟨laid, arguments⟩ := expand_served now resource pairs bounds
  have closed : ∀ other ∈
      (Selection.ofParameters resource (Window.served now resource pairs bounds)).asked,
      Sql.Balanced other.expand.sql other.arguments.length :=
    fun other among => (asks_of_mem_asked among).sound.expand.balanced
  have balanced := closed one member
  rw [only] at balanced
  obtain ⟨before, after, split⟩ := List.append_of_mem member
  rw [split] at laid arguments closed
  obtain ⟨left, right, text, leftLaid, -⟩ := laid.split
  rw [List.flatMap_append, List.flatMap_cons, only, List.singleton_append] at arguments
  refine ⟨left, right, _, _, congr (congrArg Sql.Expanded.mk text) arguments, ?_, balanced⟩
  exact leftLaid.balanced fun other among => closed other (List.mem_append_left _ among)

/-- **Every value is bound where its test stands.**  The statements of a request are one
condition between texts that no request changes; each name in them is one of the
resource, and the `k`-th argument belongs to the part of the condition at which the
`k`-th placeholder stands. -/
theorem plan_binds_where_asked (now : Instant) (resource : Resource) (pairs : List Pair)
    (bounds : PageBounds) (parameters : Parameters)
    (applied : Window.apply now resource (.ofPairs pairs bounds) = .ok parameters) :
    let selection := Selection.ofParameters resource parameters
    let plan := selection.plan
    let condition := selection.predicate.expand.sql
    let asked := (requested (RowTest.ofResource resource) resource.filterable
        parameters.filters).map RowTest.fragment ++
      (Window.asked? resource pairs).toList.map (windowFragment now)
    plan.sql = pageSql selection condition ∧
      plan.countSql = totalSql selection condition ∧
      Reads (MayName resource) plan.sql (plan.arguments.length + 2) ∧
      Reads (MayName resource) plan.countSql plan.arguments.length ∧
      (∀ one ∈ asked, Asks now resource pairs one) ∧
      plan.arguments = asked.flatMap Fragment.arguments ∧
      ∀ k argument, plan.arguments[k]? = some argument →
        ∃ before one after left right j offset,
          asked = before ++ one :: after ∧
          condition = left ++ (one.expand.sql ++ right) ∧
          k = (before.flatMap Fragment.arguments).length + j ∧
          one.arguments[j]? = some argument ∧
          (positions false one.expand.sql)[j]? = some offset ∧
          (positions false condition)[k]? = some (left.length + offset) := by
  obtain ⟨-, rfl⟩ := (Window.apply_eq_ok_iff now resource pairs bounds parameters).1 applied
  intro selection plan condition asked
  have same : asked = selection.asked := (asked_served now resource pairs bounds).symm
  have asks : ∀ one ∈ selection.asked, Asks now resource pairs one :=
    fun one member => asks_of_mem_asked member
  have sound : ∀ one ∈ selection.asked, one.Sound (MayName resource) :=
    fun one member => (asks one member).sound
  obtain ⟨laid, arguments⟩ := expand_served now resource pairs bounds
  have closed : ∀ one ∈ selection.asked,
      Reads (MayName resource) one.expand.sql one.arguments.length :=
    fun one member => (sound one member).expand
  have reads : Reads (MayName resource) condition plan.arguments.length := by
    change Reads _ condition selection.predicate.expand.arguments.length
    rw [arguments]
    exact laid.reads closed
  have bare : selection.passthrough = {} := rfl
  obtain ⟨page, total⟩ := plan_eq bare
  rw [same]
  refine ⟨page, total, ?_, ?_, asks, arguments, ?_⟩
  · rw [page]
    exact reads_pageSql .table (fun term member => mayName_order member) reads
  · rw [total]
    exact reads_totalSql .table reads
  · intro k argument found
    change selection.predicate.expand.arguments[k]? = some argument at found
    rw [arguments] at found
    exact Sql.exists_placed laid closed found

/-- A request for books: two columns with a set, a key that no column has, a search,
and a window. -/
def booksRequest : List Pair :=
  [("title||genre", "\x7ba?,b\x7d"), ("we\x60ird?", "x"), ("title", "m[dragon]m"),
    ("published_within_days", "3")]

/-- One argument for the search, two for the set on each of its columns, one for the
window. -/
theorem plan_binds_six_for_booksRequest :
    let parameters := Window.served 1700000000 Catalog.books booksRequest .standard
    let plan := (Selection.ofParameters Catalog.books parameters).plan
    Window.apply 1700000000 Catalog.books (.ofPairs booksRequest .standard) = .ok parameters ∧
      plan.arguments.length = 6 ∧
      Reads (MayName Catalog.books) plan.sql 8 ∧
      Reads (MayName Catalog.books) plan.countSql 6 := by
  intro parameters plan
  have applied : Window.apply 1700000000 Catalog.books (.ofPairs booksRequest .standard) =
      .ok parameters := (Window.apply_eq_ok_iff _ _ _ _ _).2 ⟨by decide +kernel, rfl⟩
  have count : plan.arguments.length = 6 := by decide +kernel
  obtain ⟨-, -, page, total, -⟩ := plan_binds_where_asked _ _ _ _ _ applied
  have pageCount : plan.arguments.length + 2 = 8 := by rw [count]
  exact ⟨applied, count, pageCount ▸ page, count ▸ total⟩

end CatalogListing
