/-
# Proofs.Filter.Grammar -- conditions as trees

The grammar of conditions, whatever their tests are, read by a stack of levels: AND binds
tighter than OR, and parentheses hold a condition that is complete in itself.

* `tree?` is the tree of the items of a condition, `none` if they are none;
* `IsOperand`, `Conjuncts` and `Disjuncts` say that items are one operand, operands joined by
  AND, and operands joined by OR, wherever they stand;
* `Composes` says of a way of reading texts as items that it goes along with the writing of
  conditions from tests.
-/
import CatalogListing.Filter.Clause
import Mathlib.Data.List.Basic

namespace CatalogListing.Filter

set_option autoImplicit false

/-- A piece of a condition. -/
inductive Item (α : Type) where
  | test (leaf : α)
  | and
  | or
  | opening
  | closing
  deriving DecidableEq, Repr

/-! ## Trees -/

/-- A condition: tests, all of some conditions, or any of some. -/
inductive Tree (α : Type) where
  | leaf (leaf : α)
  | all (parts : List (Tree α))
  | any (parts : List (Tree α))
  deriving Repr

variable {α : Type}

namespace Tree

/-- All of the conditions; a single one stands for itself. -/
def conjunction : List (Tree α) → Tree α
  | [one] => one
  | parts => .all parts

/-- Any of the conditions; a single one stands for itself. -/
def disjunction : List (Tree α) → Tree α
  | [one] => one
  | parts => .any parts

@[simp] theorem conjunction_singleton (one : Tree α) : conjunction [one] = one := rfl

end Tree

/-- A condition between two parentheses as far as it is read: the conjunctions before the
last OR, and the parts of the one behind it. -/
structure Level (α : Type) where
  alternatives : List (List (Tree α))
  present : List (Tree α)
  deriving Repr

namespace Level

def empty : Level α := ⟨[], []⟩

/-- One more operand. -/
def operand (level : Level α) (tree : Tree α) : Level α :=
  ⟨level.alternatives, level.present ++ [tree]⟩

/-- The conjunctions of the level, the present one last. -/
def conjunctions (level : Level α) : List (List (Tree α)) :=
  level.alternatives ++ [level.present]

/-- The conjunction is complete and another one starts. -/
def next (level : Level α) : Level α :=
  ⟨level.conjunctions, []⟩

/-- The whole condition: any of its conjunctions. -/
def tree (level : Level α) : Tree α :=
  Tree.disjunction (level.conjunctions.map Tree.conjunction)

end Level

/-- A condition as far as it is read: the present level and those around it, and whether
an operand or an operator must follow. -/
inductive Reading (α : Type) where
  | operand (outer : List (Level α)) (level : Level α)
  | operator (outer : List (Level α)) (level : Level α)
  | wrong
  deriving Repr

namespace Reading

/-- One more item. -/
def step : Reading α → Item α → Reading α
  | .operand outer level, .test leaf => .operator outer (level.operand (.leaf leaf))
  | .operand outer level, .opening => .operand (level :: outer) .empty
  | .operator outer level, .and => .operand outer level
  | .operator outer level, .or => .operand outer level.next
  | .operator (around :: outer) level, .closing => .operator outer (around.operand level.tree)
  | _, _ => .wrong

/-- The tree of a complete condition. -/
def tree? : Reading α → Option (Tree α)
  | .operator [] level => some level.tree
  | _ => none

end Reading

/-- The tree of items; no items ask nothing. -/
def tree? : List (Item α) → Option (Tree α)
  | [] => some (.all [])
  | items => (items.foldl Reading.step (.operand [] .empty)).tree?

/-! ## Operands -/

/-- The items are one operand, whatever stands around them. -/
def IsOperand (items : List (Item α)) (tree : Tree α) : Prop :=
  ∀ (outer : List (Level α)) (level : Level α),
    items.foldl Reading.step (.operand outer level) = .operator outer (level.operand tree)

/-- The items are operands that go on the conjunction they stand in. -/
def Conjuncts (items : List (Item α)) (trees : List (Tree α)) : Prop :=
  ∀ (outer : List (Level α)) (level : Level α),
    items.foldl Reading.step (.operand outer level) =
      .operator outer ⟨level.alternatives, level.present ++ trees⟩

/-- The items are operands each of which is a conjunction of its own. -/
def Disjuncts (items : List (Item α)) (trees : List (Tree α)) : Prop :=
  ∀ (outer : List (Level α)) (alternatives : List (List (Tree α))),
    ∃ level, items.foldl Reading.step (.operand outer ⟨alternatives, []⟩) = .operator outer level ∧
      level.conjunctions = alternatives ++ trees.map fun tree => [tree]

theorem IsOperand.leaf (leaf : α) : IsOperand [.test leaf] (.leaf leaf) := fun _ _ => rfl

section

variable {ι : Type} {list : List ι} {items : ι → List (Item α)} {tree : ι → Tree α}

/-- Operands joined by AND. -/
theorem conjuncts_intercalate (nonempty : list ≠ [])
    (operands : ∀ i ∈ list, IsOperand (items i) (tree i)) :
    Conjuncts (List.intercalate [.and] (list.map items)) (list.map tree) := by
  induction list with
  | nil => exact absurd rfl nonempty
  | cons first rest ih =>
      have read := operands first List.mem_cons_self
      cases rest with
      | nil =>
          simp only [List.map_cons, List.map_nil, List.intercalate_singleton]
          exact read
      | cons second others =>
          have readLater := ih (by simp) fun i member => operands i (List.mem_cons_of_mem _ member)
          simp only [List.map_cons, List.intercalate_cons_cons] at readLater ⊢
          intro outer level
          have joined := readLater outer (level.operand (tree first))
          rw [List.foldl_append, List.foldl_append, read]
          simp only [List.foldl_cons, List.foldl_nil, Reading.step, joined]
          simp [Level.operand]

/-- Operands joined by OR. -/
theorem disjuncts_intercalate (nonempty : list ≠ [])
    (operands : ∀ i ∈ list, IsOperand (items i) (tree i)) :
    Disjuncts (List.intercalate [.or] (list.map items)) (list.map tree) := by
  induction list with
  | nil => exact absurd rfl nonempty
  | cons first rest ih =>
      have read := operands first List.mem_cons_self
      cases rest with
      | nil =>
          simp only [List.map_cons, List.map_nil, List.intercalate_singleton]
          exact fun outer alternatives =>
            ⟨⟨alternatives, [tree first]⟩, read outer ⟨alternatives, []⟩, rfl⟩
      | cons second others =>
          have readLater := ih (by simp) fun i member => operands i (List.mem_cons_of_mem _ member)
          simp only [List.map_cons, List.intercalate_cons_cons] at readLater ⊢
          intro outer alternatives
          obtain ⟨level, joined, conjunctions⟩ := readLater outer (alternatives ++ [[tree first]])
          refine ⟨level, ?_, by simpa using conjunctions⟩
          rw [List.foldl_append, List.foldl_append, read]
          exact joined

end

/-- Parentheses make one operand of operands joined by AND. -/
theorem Conjuncts.parenthesized {items : List (Item α)} {trees : List (Tree α)}
    (conjuncts : Conjuncts items trees) :
    IsOperand (.opening :: items ++ [.closing]) (Tree.conjunction trees) := by
  intro outer level
  rw [List.cons_append, List.foldl_cons, List.foldl_append]
  have inside := conjuncts (level :: outer) .empty
  simp only [Reading.step, inside]
  rfl

/-- Parentheses make one operand of operands joined by OR. -/
theorem Disjuncts.parenthesized {items : List (Item α)} {trees : List (Tree α)}
    (disjuncts : Disjuncts items trees) :
    IsOperand (.opening :: items ++ [.closing]) (Tree.disjunction trees) := by
  intro outer level
  rw [List.cons_append, List.foldl_cons, List.foldl_append]
  obtain ⟨closing, inside, conjunctions⟩ := disjuncts (level :: outer) []
  have singles : (trees.map fun tree => [tree]).map Tree.conjunction = trees := by
    simp [Function.comp_def]
  have whole : closing.tree = Tree.disjunction trees := by
    rw [Level.tree, conjunctions, List.nil_append, singles]
  simp only [Reading.step, Level.empty, inside, List.foldl_cons, List.foldl_nil, whole]

/-- Operands joined by AND are a condition. -/
theorem Conjuncts.tree?_eq {items : List (Item α)} {trees : List (Tree α)}
    (conjuncts : Conjuncts items trees) : tree? items = some (Tree.conjunction trees) := by
  have all := conjuncts [] .empty
  cases items with
  | nil => cases all
  | cons item rest =>
      simp only [tree?, all]
      rfl

/-! ## Keys -/

/-- The items of one alternative of a key. -/
def conjunctionItems (grouped : Bool) (tests : List (List (Item α))) : List (Item α) :=
  let joined := List.intercalate [.and] tests
  if grouped then .opening :: joined ++ [.closing] else joined

/-- The items of alternatives, between parentheses unless there is only one. -/
def disjunctionItems : List (List (Item α)) → List (Item α)
  | [one] => one
  | alternatives => .opening :: List.intercalate [.or] alternatives ++ [.closing]

section

variable {ι : Type} {list : List ι} {items : ι → List (Item α)} {tree : ι → Tree α}

/-- The tests of one alternative are one operand; without parentheses there is only one. -/
theorem isOperand_conjunction {grouped : Bool} (nonempty : list ≠ [])
    (single : grouped = false → list.length = 1)
    (operands : ∀ i ∈ list, IsOperand (items i) (tree i)) :
    IsOperand (conjunctionItems grouped (list.map items)) (Tree.conjunction (list.map tree)) := by
  cases grouped with
  | true => exact (conjuncts_intercalate nonempty operands).parenthesized
  | false =>
      obtain ⟨one, rfl⟩ := List.length_eq_one_iff.1 (single rfl)
      simpa [conjunctionItems] using operands one List.mem_cons_self

theorem isOperand_disjunction (nonempty : list ≠ [])
    (operands : ∀ i ∈ list, IsOperand (items i) (tree i)) :
    IsOperand (disjunctionItems (list.map items)) (Tree.disjunction (list.map tree)) := by
  match list, nonempty with
  | [one], _ => exact operands one List.mem_cons_self
  | first :: second :: rest, _ => exact (disjuncts_intercalate (by simp) operands).parenthesized

end

/-! ## Texts as items -/

/-- A way of reading a text, with what is bound in it, as items: texts may be put one behind
the other, and what stands between tests is read as itself. -/
structure Composes {β : Type} (Reads : Text → List β → List (Item α) → Prop) : Prop where
  nil : Reads [] [] []
  append {text other : Text} {bound more : List β} {items others : List (Item α)} :
    Reads text bound items → Reads other more others →
      Reads (text ++ other) (bound ++ more) (items ++ others)
  and : Reads " AND " [] [.and]
  or : Reads " OR " [] [.or]
  opening : Reads ['('] [] [.opening]
  closing : Reads [')'] [] [.closing]

namespace Composes

variable {β : Type} {Reads : Text → List β → List (Item α) → Prop} {text : Text}

theorem parenthesized (composes : Composes Reads) {bound : List β} {items : List (Item α)}
    (reads : Reads text bound items) :
    Reads (Filter.parenthesized text) bound (.opening :: items ++ [.closing]) := by
  have whole := composes.append (composes.append composes.opening reads) composes.closing
  rwa [List.nil_append, List.append_nil] at whole

variable {ι : Type} {list : List ι} {sql : ι → Text} {items : ι → List (Item α)}

/-- Texts that are read as items, with a joint between them. -/
theorem intercalate (composes : Composes Reads) (bound : ι → List β) {joint : List (Item α)}
    (between : Reads text [] joint) (reads : ∀ i ∈ list, Reads (sql i) (bound i) (items i)) :
    Reads (List.intercalate text (list.map sql)) (list.flatMap bound)
      (List.intercalate joint (list.map items)) := by
  induction list with
  | nil => exact composes.nil
  | cons first rest ih =>
      have readsFirst := reads first List.mem_cons_self
      cases rest with
      | nil => simpa using readsFirst
      | cons second others =>
          have readsLater := ih fun i member => reads i (List.mem_cons_of_mem _ member)
          simp only [List.map_cons, List.intercalate_cons_cons] at readsLater ⊢
          rw [List.flatMap_cons]
          have whole := composes.append (composes.append readsFirst between) readsLater
          rwa [List.append_nil] at whole

theorem conjunction (composes : Composes Reads) (grouped : Bool) (bound : ι → List β)
    (reads : ∀ i ∈ list, Reads (sql i) (bound i) (items i)) :
    Reads (Filter.conjunction grouped (list.map sql)) (list.flatMap bound)
      (conjunctionItems grouped (list.map items)) := by
  have joined := composes.intercalate bound composes.and reads
  cases grouped with
  | true => exact composes.parenthesized joined
  | false => exact joined

theorem disjunction (composes : Composes Reads) (bound : ι → List β)
    (reads : ∀ i ∈ list, Reads (sql i) (bound i) (items i)) :
    Reads (Filter.disjunction (list.map sql)) (list.flatMap bound)
      (disjunctionItems (list.map items)) := by
  have joined := composes.intercalate bound composes.or reads
  match list, reads with
  | [], _ => exact composes.parenthesized joined
  | [one], reads =>
      rw [List.flatMap_singleton]
      exact reads one List.mem_cons_self
  | first :: second :: rest, _ => exact composes.parenthesized joined

end Composes

end CatalogListing.Filter
