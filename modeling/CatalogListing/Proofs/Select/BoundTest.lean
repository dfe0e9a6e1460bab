/-
# Proofs.Select.BoundTest -- conditions read from what is run

The expanded text of a condition and the arguments bound to it, read as a tree of tests on a
row, each a column, an operator and its arguments (`condition?`).  The reading knows the
grammar and nothing of filters, conditions and parameters.

* `Means` says which items a text with parameters is run as wherever it stands between tests;
* `RowTest.means`: a test is run as the column, the operator and the operands it is made of;
* `condition?_expand_predicateOf`: clauses are run as the tree that they are.
-/
import CatalogListing.Proofs.Filter.Placement
import CatalogListing.Proofs.Sql.Binding
import CatalogListing.Select.RowTest

namespace CatalogListing

set_option autoImplicit false

open CatalogListing.Filter (Clause Comparison Composes Condition IsOperand Item Operand Renderer Tree
  tree?)
open Sql (Argument Expanded Parameter Piece Runs)

/-! ## Tests as they are run -/

/-- A test with the arguments bound to its placeholders. -/
inductive BoundTest where
  | compare (column : Text) (comparison : Comparison) (argument : Argument)
  | like (column : Text) (argument : Argument)
  | member (column : Text) (negated : Bool) (arguments : List Argument)
  | null (column : Text) (negated : Bool)
  | fullText (column : Text) (argument : Argument)
  | indexed (table key index column : Text) (argument : Argument)
  deriving DecidableEq, Repr

/-- The arguments of a list, read to the parenthesis that closes it. -/
def listed? : List Piece → Option (List Argument)
  | [.token (.keyword .null), .token .closing] => some [.null]
  | [.bound argument, .token .closing] => some [argument]
  | .bound argument :: .token (.mark ',') :: rest => (listed? rest).map (argument :: ·)
  | _ => none

/-- The search that pieces behind the name of a table are. -/
def search? (table : Text) : List Piece → Option BoundTest
  | [.token (.name key), .token (.keyword .member), .token .opening, .token (.word select),
      .token (.word rows), .token (.word source), .token (.name index), .token (.word condition),
      .token (.name column), .token (.keyword .matching), .bound argument, .token .closing] =>
      if [select, rows, source, condition] = (["SELECT", "rowid", "FROM", "WHERE"] : List Text) then
        some (.indexed table key index column argument)
      else none
  | _ => none

/-- The test that pieces behind a name are. -/
def testOf? (name : Text) : List Piece → Option BoundTest
  | [.token (.operator operator), .bound argument] =>
      (Filter.comparison? operator).map fun comparison => .compare name comparison argument
  | [.token (.keyword .like), .bound argument] => some (.like name argument)
  | .token (.keyword .member) :: .token .opening :: rest =>
      (listed? rest).map (.member name false)
  | .token (.keyword .not) :: .token (.keyword .member) :: .token .opening :: rest =>
      (listed? rest).map (.member name true)
  | [.token (.keyword .is), .token (.keyword .null)] => some (.null name false)
  | [.token (.keyword .is), .token (.keyword .not), .token (.keyword .null)] =>
      some (.null name true)
  | [.token (.keyword .matching), .bound argument] => some (.fullText name argument)
  | .token (.mark '.') :: rest => search? name rest
  | _ => none

/-- The test that pieces are, none if one of them is missing. -/
def boundTest? : List Piece → Option BoundTest
  | .token (.name name) :: rest => testOf? name rest
  | _ => none

/-- What joins tests. -/
def joint? : Piece → Option (Item BoundTest)
  | .token (.keyword .and) => some .and
  | .token (.keyword .or) => some .or
  | .token .opening => some .opening
  | .token .closing => some .closing
  | _ => none

/-- The items read so far and the pieces of a test that is not complete, newest first. -/
structure Gathering where
  items : List (Item BoundTest)
  pending : List Piece

namespace Gathering

/-- One more piece. -/
def step (gathering : Gathering) (piece : Piece) : Gathering :=
  match gathering.pending, joint? piece with
  | [], some item => ⟨item :: gathering.items, []⟩
  | pending, _ =>
      match boundTest? (piece :: pending).reverse with
      | some test => ⟨.test test :: gathering.items, []⟩
      | none => ⟨gathering.items, piece :: pending⟩

/-- The items when every test is complete. -/
def finish? (gathering : Gathering) : Option (List (Item BoundTest)) :=
  match gathering.pending with
  | [] => some gathering.items.reverse
  | _ => none

end Gathering

/-- The condition that a text with its arguments is, if it is one. -/
def Sql.Expanded.condition? (expanded : Expanded) : Option (Filter.Tree BoundTest) :=
  (expanded.pieces?.bind fun pieces => (pieces.foldl Gathering.step ⟨[], []⟩).finish?).bind tree?

/-! ## Pieces as items -/

/-- Between tests the pieces become the items. -/
def Makes (pieces : List Piece) (items : List (Item BoundTest)) : Prop :=
  ∀ before : List (Item BoundTest),
    pieces.foldl Gathering.step ⟨before, []⟩ = ⟨items.reverse ++ before, []⟩

theorem Makes.append {pieces more : List Piece} {items others : List (Item BoundTest)}
    (makes : Makes pieces items) (later : Makes more others) :
    Makes (pieces ++ more) (items ++ others) := by
  intro before
  rw [List.foldl_append, makes, later, List.reverse_append, List.append_assoc]

/-- Pieces of a test that is not complete with any of them are kept. -/
theorem foldl_step_pending (before : List (Item BoundTest)) {pending : List Piece}
    (some_ : pending ≠ []) {pieces : List Piece}
    (incomplete : ∀ front, front <+: pieces → front ≠ [] →
      boundTest? (pending.reverse ++ front) = none) :
    pieces.foldl Gathering.step ⟨before, pending⟩ = ⟨before, pieces.reverse ++ pending⟩ := by
  induction pieces generalizing pending with
  | nil => rfl
  | cons piece rest ih =>
      have first : boundTest? (piece :: pending).reverse = none := by
        rw [List.reverse_cons]
        exact incomplete [piece] (by simp) (List.cons_ne_nil _ _)
      have step : Gathering.step ⟨before, pending⟩ piece = ⟨before, piece :: pending⟩ := by
        cases pending with
        | nil => exact absurd rfl some_
        | cons last earlier => simp only [Gathering.step, first]
      rw [List.foldl_cons, step, ih (List.cons_ne_nil _ _), List.reverse_cons, List.append_assoc,
        List.singleton_append]
      intro front isFront more
      have longer := incomplete (piece :: front) (List.cons_prefix_cons.2 ⟨rfl, isFront⟩)
        (List.cons_ne_nil _ _)
      rwa [List.reverse_cons, List.append_assoc]

/-! ## Lists of elements -/

/-- The elements of a set as they are bound. -/
def elementsOf (items : List Text) : List Argument :=
  match items with
  | [] => [.null]
  | items => items.map .text

theorem listed?_eq_none {pieces : List Piece} (unclosed : Piece.token .closing ∉ pieces) :
    listed? pieces = none := by
  fun_induction listed? pieces with
  | case1 => simp at unclosed
  | case2 argument => simp at unclosed
  | case3 argument rest ih =>
      have none_ := ih (by simp_all)
      rw [none_, Option.map_none]
  | case4 => rfl

theorem closing_notMem_elements (items : List Text) :
    Piece.token .closing ∉ Sql.elements items := by
  match items with
  | [] => decide
  | [one] => exact fun member => by simp [Sql.elements] at member
  | first :: second :: rest =>
      have later := closing_notMem_elements (second :: rest)
      simp only [Sql.elements, List.map_cons, List.intercalate_cons_cons] at later ⊢
      simpa using later

theorem listed?_elements (items : List Text) :
    listed? (Sql.elements items ++ [.token .closing]) = some (elementsOf items) := by
  match items with
  | [] => rfl
  | [one] => rfl
  | first :: second :: rest =>
      have later := listed?_elements (second :: rest)
      simp only [Sql.elements, List.map_cons, List.intercalate_cons_cons, List.append_assoc]
        at later ⊢
      simp only [List.cons_append, List.nil_append, listed?, later]
      rfl

/-! ## Tests that end with a parenthesis -/

/-- What follows the column in a test that ends with a parenthesis. -/
def Opens (piece : Piece) : Prop :=
  piece = .token (.keyword .member) ∨ piece = .token (.keyword .not) ∨ piece = .token (.mark '.')

theorem search?_eq_none {table : Text} {pieces : List Piece}
    (unclosed : Piece.token .closing ∉ pieces) : search? table pieces = none := by
  unfold search?
  split
  · simp at unclosed
  · rfl

theorem boundTest?_eq_none {name : Text} {second : Piece} (opens : Opens second)
    {rest : List Piece} (unclosed : Piece.token .closing ∉ rest) :
    boundTest? (.token (.name name) :: second :: rest) = none := by
  change testOf? name (second :: rest) = none
  unfold testOf?
  rcases opens with rfl | rfl | rfl
  · split <;> simp_all [listed?_eq_none]
  · split <;> simp_all [listed?_eq_none]
  · exact search?_eq_none unclosed

/-- A test is complete with its parenthesis and not before. -/
theorem makes_closed {name : Text} {second : Piece} (opens : Opens second) {middle : List Piece}
    (unclosed : Piece.token .closing ∉ middle) {test : BoundTest}
    (complete : boundTest? (.token (.name name) :: second :: (middle ++ [.token .closing])) =
      some test) :
    Makes (.token (.name name) :: second :: (middle ++ [.token .closing])) [.test test] := by
  intro before
  have opened : [.token (.name name), second].foldl Gathering.step ⟨before, []⟩ =
      ⟨before, [second, .token (.name name)]⟩ := by
    rcases opens with rfl | rfl | rfl <;> rfl
  have kept := foldl_step_pending before (List.cons_ne_nil second [.token (.name name)])
    fun front (isFront : front <+: middle) _ =>
      boundTest?_eq_none opens fun member => unclosed (isFront.subset member)
  have last : Gathering.step ⟨before, middle.reverse ++ [second, .token (.name name)]⟩
      (.token .closing) = ⟨.test test :: before, []⟩ := by
    have whole : (Piece.token .closing ::
        (middle.reverse ++ [second, .token (.name name)])).reverse =
          .token (.name name) :: second :: (middle ++ [.token .closing]) := by simp
    rw [← whole] at complete
    generalize waits : middle.reverse ++ [second, .token (.name name)] = pending at complete
    cases pending with
    | nil => simp at waits
    | cons newest older => simp only [Gathering.step, complete]
  have split : .token (.name name) :: second :: (middle ++ [.token .closing]) =
      [.token (.name name), second] ++ (middle ++ [.token .closing]) := rfl
  rw [split, List.foldl_append, opened, List.foldl_append, kept]
  exact last

/-! ## Texts as items -/

/-- With the parameters at its placeholders the text is run as the items, wherever it stands
outside of names and of tests. -/
def Means (text : Text) (parameters : List Parameter) (items : List (Item BoundTest)) : Prop :=
  ∃ pieces, Runs text parameters pieces ∧ Makes pieces items

namespace Means

variable {text other : Text} {parameters more : List Parameter}
  {items others : List (Item BoundTest)}

theorem append (means : Means text parameters items) (later : Means other more others) :
    Means (text ++ other) (parameters ++ more) (items ++ others) := by
  obtain ⟨pieces, runs, makes⟩ := means
  obtain ⟨behind, runs', makes'⟩ := later
  exact ⟨_, runs.append runs', makes.append makes'⟩

theorem composes : Composes Means where
  nil := ⟨[], .nil, fun _ => rfl⟩
  append := append
  and := ⟨_, .fixed [.keyword .and] (by decide) (fun _ => rfl) (by decide), fun _ => rfl⟩
  or := ⟨_, .fixed [.keyword .or] (by decide) (fun _ => rfl) (by decide), fun _ => rfl⟩
  opening := ⟨_, .fixed [.opening] (by decide) (fun _ => rfl) (by decide), fun _ => rfl⟩
  closing := ⟨_, .closing, fun _ => rfl⟩

theorem condition?_eq (means : Means text parameters items) :
    (Sql.Predicate.expand ⟨text, parameters⟩).condition? = tree? items := by
  obtain ⟨pieces, runs, makes⟩ := means
  have made := makes []
  rw [List.append_nil] at made
  simp [Expanded.condition?, runs.pieces?_eq, made, Gathering.finish?]

end Means

/-! ## Tests -/

/-- An operand as it is bound. -/
def Filter.Operand.argument : Operand → Argument
  | .boolean b => .boolean b
  | .text t => .text t

/-- The test as it is run. -/
def RowTest.bound : RowTest → BoundTest
  | .column name (.compare comparison operand) => .compare name comparison operand.argument
  | .column name (.like pattern) => .like name (.text pattern)
  | .column name (.member negated items) => .member name negated (elementsOf items)
  | .column name (.null negated) => .null name negated
  | .column name (.fullText words) => .fullText name (.text words)
  | .indexed table key index name query => .indexed table key index name (.text query)

/-- A text that is matched, behind the column or the table it is matched with. -/
theorem runs_matching (words : Text) :
    Runs " MATCH ?" [.text words] [.token (.keyword .matching), .bound (.text words)] := by
  have operator : Runs " MATCH " [] [.token (.keyword .matching)] :=
    .fixed [.keyword .matching] (by decide) (fun _ => rfl) (by decide)
  exact operator.append (.placeholder ⟨rfl, rfl⟩)

theorem means_compare (column : Text) (comparison : Comparison) (operand : Operand) :
    Means (Sql.quote column ++ ' ' :: (comparison.operator ++ " ?")) [operand.parameter]
      [.test (.compare column comparison operand.argument)] := by
  have single : operand.parameter.slots = ['?'] ∧
      operand.parameter.arguments = [operand.argument] := by
    cases operand <;> exact ⟨rfl, rfl⟩
  have operator : Runs (' ' :: comparison.operator ++ " ") []
      [.token (.operator comparison.operator)] := by
    cases comparison <;> exact .fixed [.operator _] (by decide) (fun _ => rfl) (by decide)
  have whole := (operator.append (.placeholder single)).quote column (by decide) (by decide)
  cases comparison <;> exact ⟨_, whole, fun _ => rfl⟩

theorem means_member (column : Text) (negated : Bool) (items : List Text) :
    Means (Sql.quote column ++ ' ' :: (Condition.member negated items).test) [.list items]
      [.test (.member column negated (elementsOf items))] := by
  have list := (Runs.set items).append .closing
  have unclosed := closing_notMem_elements items
  cases negated with
  | false =>
      have operator : Runs " in " [] [.token (.keyword .member)] :=
        .fixed [.keyword .member] (by decide) (fun _ => rfl) (by decide)
      refine ⟨_, (operator.append list).quote column (by decide) (by decide), ?_⟩
      have complete := congrArg (Option.map (BoundTest.member column false)) (listed?_elements items)
      exact @makes_closed column _ (.inl rfl) (.token .opening :: Sql.elements items)
        (by simpa using unclosed) _ complete
  | true =>
      have operator : Runs " not in " [] [.token (.keyword .not), .token (.keyword .member)] :=
        .fixed [.keyword .not, .keyword .member] (by decide) (fun _ => rfl) (by decide)
      refine ⟨_, (operator.append list).quote column (by decide) (by decide), ?_⟩
      have complete := congrArg (Option.map (BoundTest.member column true)) (listed?_elements items)
      exact @makes_closed column _ (.inr (.inl rfl))
        (.token (.keyword .member) :: .token .opening :: Sql.elements items)
        (by simpa using unclosed) _ complete

/-- A condition on a column is run as the column, its operator and its operand. -/
theorem means_condition (column : Text) (condition : Condition) :
    Means (Sql.quote column ++ ' ' :: condition.test) condition.parameter?.toList
      [.test (RowTest.column column condition).bound] := by
  cases condition with
  | compare comparison operand => exact means_compare column comparison operand
  | like pattern =>
      have operator : Runs " LIKE " [] [.token (.keyword .like)] :=
        .fixed [.keyword .like] (by decide) (fun _ => rfl) (by decide)
      have operand : Runs ['?'] [.text pattern] [.bound (.text pattern)] := .placeholder ⟨rfl, rfl⟩
      exact ⟨_, (operator.append operand).quote column (by decide) (by decide), fun _ => rfl⟩
  | member negated items => exact means_member column negated items
  | null negated =>
      cases negated with
      | false =>
          have operator : Runs " IS NULL" [] [.token (.keyword .is), .token (.keyword .null)] :=
            .fixed [.keyword .is, .keyword .null] (by decide) (fun _ => rfl) (by decide)
          exact ⟨_, operator.quote column (by decide) (by decide), fun _ => rfl⟩
      | true =>
          have operator : Runs " IS NOT NULL" []
              [.token (.keyword .is), .token (.keyword .not), .token (.keyword .null)] :=
            .fixed [.keyword .is, .keyword .not, .keyword .null] (by decide) (fun _ => rfl)
              (by decide)
          exact ⟨_, operator.quote column (by decide) (by decide), fun _ => rfl⟩
  | fullText words =>
      exact ⟨_, (runs_matching words).quote column (by decide) (by decide), fun _ => rfl⟩

theorem means_indexed (table key index column query : Text) :
    Means (RowTest.indexed table key index column query).fragment.sql [.text query]
      [.test (.indexed table key index column (.text query))] := by
  have restricting : Runs " WHERE " [] [.token (.word "WHERE")] :=
    .fixed [.word "WHERE"] (by decide) (fun _ => rfl) (by decide)
  have selecting : Runs " IN (SELECT rowid FROM " []
      [.token (.keyword .member), .token .opening, .token (.word "SELECT"),
        .token (.word "rowid"), .token (.word "FROM")] :=
    .fixed [.keyword .member, .opening, .word "SELECT", .word "rowid", .word "FROM"] (by decide)
      (fun _ => rfl) (by decide)
  have dot : Runs ['.'] [] [.token (.mark '.')] :=
    .fixed [.mark '.'] (by decide) (fun _ => rfl) (by decide)
  have matched := ((runs_matching query).append .closing).quote column (by decide) (by decide)
  have found := (restricting.append matched).quote index (by decide) (by decide)
  have rows := (selecting.append found).quote key (by decide) (by decide)
  have whole := (dot.append rows).quote table (by decide) (by decide)
  have text : (RowTest.indexed table key index column query).fragment.sql =
      Sql.quote table ++ (['.'] ++ (Sql.quote key ++ (" IN (SELECT rowid FROM " ++
        (Sql.quote index ++ (" WHERE " ++ (Sql.quote column ++ (" MATCH ?" ++ [')']))))))) := by
    simp only [RowTest.fragment, List.append_assoc, List.cons_append, List.nil_append]
    rfl
  have makes : Makes (.token (.name table) :: .token (.mark '.') ::
      ([.token (.name key), .token (.keyword .member), .token .opening, .token (.word "SELECT"),
        .token (.word "rowid"), .token (.word "FROM"), .token (.name index),
        .token (.word "WHERE"), .token (.name column), .token (.keyword .matching),
        .bound (.text query)] ++ [.token .closing]))
      [.test (.indexed table key index column (.text query))] :=
    makes_closed (.inr (.inr rfl)) (by simp) (by simp [boundTest?, testOf?, search?])
  rw [text]
  exact ⟨_, whole, makes⟩

/-- A test is run as its column, its operator and its operand. -/
theorem RowTest.means (test : RowTest) :
    Means test.fragment.sql test.fragment.parameter.toList [.test test.bound] := by
  cases test with
  | column name condition => exact means_condition name condition
  | indexed table key index name query => exact means_indexed table key index name query

/-! ## Clauses -/

namespace Filter.Clause

/-- The items that a clause is run as. -/
def items (clause : Clause RowTest) : List (Item BoundTest) :=
  disjunctionItems (clause.alternatives.map fun tests =>
    conjunctionItems clause.grouped (tests.map fun test => [.test test.bound]))

/-- The tree that a clause is run as. -/
def tree (clause : Clause RowTest) : Tree BoundTest :=
  Tree.disjunction (clause.alternatives.map fun tests =>
    Tree.conjunction (tests.map fun test => .leaf test.bound))

/-- A clause that goes into a condition as one operand: nothing in it is empty, and tests
without parentheses are alone. -/
structure Formed {α : Type} (clause : Clause α) : Prop where
  nonempty : clause.alternatives ≠ []
  each : ∀ tests ∈ clause.alternatives, tests ≠ []
  single : clause.grouped = false → ∀ tests ∈ clause.alternatives, tests.length = 1

variable {clause : Clause RowTest}

theorem means (clause : Clause RowTest) :
    Means (clause.sql RowTest.fragment) (clause.parameters RowTest.fragment) clause.items := by
  have alternatives := Means.composes.disjunction _ fun tests (_ : tests ∈ clause.alternatives) =>
    Means.composes.conjunction clause.grouped _ fun test (_ : test ∈ tests) => test.means
  have parameters : clause.parameters RowTest.fragment = clause.alternatives.flatMap fun tests =>
      tests.flatMap fun test => test.fragment.parameter.toList := by
    rw [parameters_eq, Clause.tests, List.flatMap_map, ← List.flatMap_id, List.flatMap_assoc]
    rfl
  rw [parameters]
  simpa [sql, items] using alternatives

theorem Formed.isOperand (formed : clause.Formed) : IsOperand clause.items clause.tree :=
  isOperand_disjunction formed.nonempty fun tests member =>
    isOperand_conjunction (formed.each tests member) (fun alone => formed.single alone tests member)
      fun test _ => .leaf test.bound

/-- What a compiler makes of a key goes into a condition as one operand. -/
theorem formed_of_compile {α : Type} {render : Renderer α} {key : Text} {values : List Text}
    {clause : Clause α} (compiled : Clause.compile render key values = some clause) :
    clause.Formed := by
  unfold Clause.compile at compiled
  dsimp only at compiled
  split at compiled
  · cases compiled
  · rename_i some_
    obtain rfl := Option.some.inj compiled
    have each : ∀ ts ∈ ((columnsOf key).map (Filter.tests render (values.filterMap classify))).filter
        (fun ts => !ts.isEmpty), ts ≠ [] := by
      intro ts member
      simpa using (List.mem_filter.1 member).2
    refine ⟨by simpa using some_, each, fun alone ts member => ?_⟩
    obtain ⟨column, -, rfl⟩ := List.mem_map.1 (List.mem_filter.1 member).1
    have least := List.length_pos_iff.2 (each _ member)
    have most : (Filter.tests render (values.filterMap classify) column).length ≤ values.length :=
      Nat.le_trans (List.length_filterMap_le _ _) (List.length_filterMap_le _ _)
    have few : ¬ 1 < values.length := by simpa using alone
    omega

end Filter.Clause

/-- **Clauses are run as they are meant.** -/
theorem condition?_expand_predicateOf {clauses : List (Clause RowTest)}
    (formed : ∀ clause ∈ clauses, clause.Formed) :
    (Filter.predicateOf RowTest.fragment clauses).expand.condition? =
      some (Tree.conjunction (clauses.map Clause.tree)) := by
  have means := Means.composes.intercalate _ Means.composes.and
    fun clause (_ : clause ∈ clauses) => clause.means
  rw [Filter.predicateOf, means.condition?_eq]
  by_cases nothing : clauses = []
  · rw [nothing]
    rfl
  · exact (Filter.conjuncts_intercalate nothing fun clause member =>
      (formed clause member).isOperand).tree?_eq

end CatalogListing
