/-
# Proofs.Filter.ReadBack -- conditions are read back as they were asked for

The text of a condition is written from the shapes of its values alone (`keyText?`), so
no text of a value is in it.  Read back, it is the tree that its keys ask for: all of the
keys, any of the columns of a key, all of the values on a column (`treeOf`).

* `Part` says that a text is one operand of whatever condition it stands in;
* `part_of_keyText?`: the text of a key is one operand, so keys never run into each
  other, however the parentheses inside them fall.
-/
import CatalogListing.Proofs.Filter.Tree
import CatalogListing.Proofs.Query.Keyed

namespace CatalogListing.Filter

set_option autoImplicit false

/-! ## Operands -/

/-- The text is one operand, whatever stands around it. -/
def Part (text : Text) (tree : Tree Leaf) : Prop :=
  ∃ items, Writes text items ∧ IsOperand items tree

/-- Operands joined by AND. -/
theorem exists_conjuncts {parts : List (Text × Tree Leaf)} (nonempty : parts ≠ [])
    (operands : ∀ part ∈ parts, Part part.1 part.2) :
    ∃ items, Writes (List.intercalate " AND " (parts.map (·.1))) items ∧
      Conjuncts items (parts.map (·.2)) := by
  choose! items writes operand using operands
  exact ⟨_, Writes.composes.intercalate (fun _ => []) Writes.composes.and writes,
    conjuncts_intercalate nonempty operand⟩

/-! ## The text of a key -/

/-- What a value asks, without its operand, if it asks anything. -/
def asked (value : Text) : Option Shape :=
  (classify value).map Condition.shape

/-- The text of a key whose values ask the given shapes; values that ask nothing count
for the grouping only. -/
def keyText? (key : Text) (shapes : List (Option Shape)) : Option Text :=
  let tests := shapes.filterMap id
  if columnsOf key = [] ∨ tests = [] then none
  else some (disjunction ((columnsOf key).map fun column =>
    conjunction (1 < shapes.length) (tests.map fun shape => Leaf.sql ⟨column, shape⟩)))

/-- The tree of a key whose values ask the given shapes. -/
def keyTree? (key : Text) (shapes : List (Option Shape)) : Option (Tree Leaf) :=
  let tests := shapes.filterMap id
  if columnsOf key = [] ∨ tests = [] then none
  else some (Tree.disjunction ((columnsOf key).map fun column =>
    Tree.conjunction (tests.map fun shape => .leaf ⟨column, shape⟩)))

theorem filterMap_asked (values : List Text) :
    (values.map asked).filterMap id = (values.filterMap classify).map Condition.shape := by
  simp [List.filterMap_map, List.map_filterMap, asked, Function.comp_def]

theorem tests_anyColumn (conditions : List Condition) (column : Text) :
    tests anyColumn conditions column = conditions.map fun condition => ⟨column, condition⟩ := by
  exact congrFun List.filterMap_eq_map' conditions

/-- **The text of a clause comes from shapes alone.** -/
theorem sql_compile (key : Text) (values : List Text) :
    (Clause.compile anyColumn key values).map (Clause.sql ColumnTest.fragment) =
      keyText? key (values.map asked) := by
  simp only [Clause.compile, keyText?, filterMap_asked, List.map_eq_nil_iff, List.length_map]
  generalize values.filterMap classify = conditions
  by_cases none_ : conditions = []
  · simp [none_, tests]
  · have kept : ((columnsOf key).map (tests anyColumn conditions)).filter (fun ts => !ts.isEmpty) =
        (columnsOf key).map (tests anyColumn conditions) := by
      rw [List.filter_eq_self]
      intro ts member
      obtain ⟨column, -, rfl⟩ := List.mem_map.1 member
      simp [tests_anyColumn, none_]
    rw [kept]
    by_cases noColumn : columnsOf key = []
    · simp [noColumn]
    · simp [none_, noColumn, Clause.sql, tests_anyColumn, Function.comp_def, ColumnTest.fragment,
        Condition.fragment, Leaf.sql, Condition.test_bare_shape]

/-- **A key is one operand.**  Its text is read as its tree, whatever it is called. -/
theorem part_of_keyText? {key : Text} {shapes : List (Option Shape)} {text : Text}
    (written : keyText? key shapes = some text) :
    ∃ tree, keyTree? key shapes = some tree ∧ Part text tree := by
  simp only [keyText?] at written
  split at written
  · cases written
  · rename_i usable
    obtain ⟨columns, tests⟩ := not_or.1 usable
    cases written
    refine ⟨_, by simp only [keyTree?]; rw [if_neg usable], ?_⟩
    have single : decide (1 < shapes.length) = false → (shapes.filterMap id).length = 1 := by
      intro few
      have most := List.length_filterMap_le id shapes
      have least := List.length_pos_iff.2 tests
      have bound : ¬ 1 < shapes.length := by simpa using few
      omega
    refine ⟨_, Writes.composes.disjunction (fun _ => []) fun column _ =>
        Writes.composes.conjunction _ (fun _ => []) fun shape _ => Leaf.writes ⟨column, shape⟩,
      isOperand_disjunction columns fun column _ =>
        isOperand_conjunction tests single fun shape _ => .leaf (⟨column, shape⟩ : Leaf)⟩

/-! ## Conditions -/

/-- Filters without the texts of their values. -/
def shapesOf (filters : Filters) : List (Text × List (Option Shape)) :=
  filters.map fun filter => (filter.1, filter.2.map asked)

/-- The key may be filtered by: it is allowed, or it names alternatives. -/
def isUsable (allowed : List Text) (key : Text) : Bool :=
  namesAlternatives key || allowed.contains key

/-- The tree that filters ask for: all of the usable keys that ask anything. -/
def treeOf (allowed : List Text) (shapes : List (Text × List (Option Shape))) : Tree Leaf :=
  Tree.conjunction (shapes.filterMap fun entry =>
    if isUsable allowed entry.1 then keyTree? entry.1 entry.2 else none)

/-- The condition of filters on any columns. -/
def conditionOf (allowed : List Text) (filters : Filters) : Text :=
  (predicateOf ColumnTest.fragment (compileAll anyColumn allowed filters)).condition

theorem conditionOf_eq (allowed : List Text) (filters : Filters) :
    conditionOf allowed filters =
      List.intercalate " AND " ((shapesOf filters).filterMap fun entry =>
        if isUsable allowed entry.1 then keyText? entry.1 entry.2 else none) := by
  simp only [conditionOf, predicateOf, compileAll, shapesOf, List.map_filterMap,
    List.filterMap_map]
  congr 2
  funext filter
  have text := sql_compile filter.1 filter.2
  by_cases usable : isUsable allowed filter.1 = true
  · simp_all [isUsable]
  · simp_all [isUsable]

/-- The keys that ask anything, each with its text and its tree. -/
theorem exists_parts (allowed : List Text) (shapes : List (Text × List (Option Shape))) :
    ∃ parts : List (Text × Tree Leaf),
      parts.map (·.1) = (shapes.filterMap fun entry =>
        if isUsable allowed entry.1 then keyText? entry.1 entry.2 else none) ∧
      parts.map (·.2) = (shapes.filterMap fun entry =>
        if isUsable allowed entry.1 then keyTree? entry.1 entry.2 else none) ∧
      ∀ part ∈ parts, Part part.1 part.2 := by
  induction shapes with
  | nil => exact ⟨[], rfl, rfl, fun _ member => nomatch member⟩
  | cons entry rest ih =>
      obtain ⟨parts, texts, trees, whole⟩ := ih
      by_cases usable : isUsable allowed entry.1 = true
      · cases written : keyText? entry.1 entry.2 with
        | none =>
            have nothing : keyTree? entry.1 entry.2 = none := by
              simpa [keyText?, keyTree?] using written
            exact ⟨parts, by simp [usable, written, texts], by simp [usable, nothing, trees], whole⟩
        | some text =>
            obtain ⟨tree, asks, part⟩ := part_of_keyText? written
            refine ⟨(text, tree) :: parts, by simp [usable, written, texts],
              by simp [usable, asks, trees], ?_⟩
            intro other member
            rcases List.mem_cons.1 member with rfl | later
            · exact part
            · exact whole other later
      · exact ⟨parts, by simp [usable, texts], by simp [usable, trees], whole⟩

/-- The text of a condition is read as the tree of its filters. -/
theorem condition?_conditionOf (allowed : List Text) (filters : Filters) :
    condition? (conditionOf allowed filters) = some (treeOf allowed (shapesOf filters)) := by
  obtain ⟨parts, texts, trees, whole⟩ := exists_parts allowed (shapesOf filters)
  rw [conditionOf_eq, treeOf, ← texts, ← trees]
  by_cases nothing : parts = []
  · subst nothing
    rfl
  · obtain ⟨items, writes, conjuncts⟩ := exists_conjuncts nothing whole
    rw [writes.condition?_eq, conjuncts.tree?_eq]

/-- **A condition is what its filters ask for, and nothing else.**  Whatever characters
the keys and the values of a map have, the text of its condition is read back as the tree
that the map asks for; the values enter it by their shapes only. -/
theorem condition_reads_back (entries : List (Text × List Text)) (allowed : List Text) :
    let filters : Filters := Keyed.ofEntries entries
    Keyed.Ascending filters ∧
      (∀ key, Keyed.find? key filters = Keyed.find? key entries.reverse) ∧
      condition? (conditionOf allowed filters) = some (treeOf allowed (shapesOf filters)) ∧
      ∀ others : Filters, shapesOf others = shapesOf filters →
        conditionOf allowed others = conditionOf allowed filters := by
  intro filters
  refine ⟨Keyed.ascending_ofEntries entries, Keyed.find?_ofEntries entries,
    condition?_conditionOf allowed filters, ?_⟩
  intro others same
  rw [conditionOf_eq, conditionOf_eq, same]

end CatalogListing.Filter
