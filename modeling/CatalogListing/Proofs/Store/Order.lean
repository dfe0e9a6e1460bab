/-
# Proofs.Store.Order -- the order of values and of rows

Every value has a place in one linear order, and comes before another exactly when its
place does (`precedes_iff`).  Two different values may share a place: a whole number is
the same integer or floating-point.

Rows are compared term by term.  One stands before another unless some term prefers the
other and none before it prefers the one (`standsBefore_iff`), which makes a total
preorder of the rows; two rows tie exactly when no term tells them apart
(`ties_iff`).
-/
import Mathlib.Data.List.Lex
import Mathlib.Data.Prod.Lex
import CatalogListing.Store.Fetch

namespace CatalogListing

set_option autoImplicit false

/-! ## Values -/

theorem Text.precedes_iff (t u : Text) :
    precedes t u = true ↔ t.map Char.toNat < u.map Char.toNat := by
  induction t generalizing u with
  | nil => cases u <;> simp [precedes]
  | cons c rest ih =>
      cases u with
      | nil => simp [precedes]
      | cons d others => simp [precedes, List.cons_lt_cons_iff, Char.toNat_inj, ih]

namespace Scalar

theorem bytesPrecede_iff (b c : Bytes) :
    bytesPrecede b c = true ↔ b.map UInt8.toNat < c.map UInt8.toNat := by
  induction b generalizing c with
  | nil => cases c <;> simp [bytesPrecede]
  | cons first rest ih =>
      cases c with
      | nil => simp [bytesPrecede]
      | cons second others =>
          simp [bytesPrecede, List.cons_lt_cons_iff, UInt8.lt_iff_toNat_lt, UInt8.toNat_inj, ih]

/-- The codes of a text, or the bytes. -/
def codes : Scalar → List Nat
  | .text t => t.map Char.toNat
  | .blob bytes => bytes.map UInt8.toNat
  | _ => []

/-- The place of a value among all others. -/
def place (value : Scalar) : Nat ×ₗ Int ×ₗ List Nat :=
  toLex (value.rank, toLex (value.units, value.codes))

/-- **The order of values is the order of their places.** -/
theorem precedes_iff (x y : Scalar) : x.precedes y = true ↔ x.place < y.place := by
  rw [place, place, Prod.Lex.toLex_lt_toLex, Prod.Lex.toLex_lt_toLex]
  unfold precedes
  by_cases kinds : x.rank = y.rank
  · rw [if_neg (not_not.2 kinds)]
    simp only [kinds, lt_irrefl, false_or, true_and]
    cases x <;> cases y <;> simp [rank] at kinds
    all_goals simp only [codes, lt_irrefl, and_false, or_false]
    case text.text t u => simp [units, Text.precedes_iff]
    case blob.blob b c => simp [units, bytesPrecede_iff]
    all_goals exact decide_eq_true_iff
  · rw [if_pos kinds]
    simp [kinds]

end Scalar

/-! ## Terms -/

namespace OrderTerm

variable {term : OrderTerm} {schema : Schema} {x y z : Row}

/-- The term puts a row strictly before another. -/
def Prefers (term : OrderTerm) (schema : Schema) (x y : Row) : Prop :=
  if term.descending then (y.value schema term.field).precedes (x.value schema term.field) = true
  else (x.value schema term.field).precedes (y.value schema term.field) = true

theorem Prefers.asymm (first : term.Prefers schema x y) : ¬ term.Prefers schema y x := by
  unfold Prefers at first ⊢
  split at first
  all_goals
    rename_i direction
    simp only [direction, if_true, Bool.false_eq_true, if_false, Scalar.precedes_iff] at first ⊢
    exact lt_asymm first

theorem Prefers.trans (first : term.Prefers schema x y) (second : term.Prefers schema y z) :
    term.Prefers schema x z := by
  unfold Prefers at first second ⊢
  cases direction : term.descending
  all_goals
    simp only [direction, if_true, Bool.false_eq_true, if_false, Scalar.precedes_iff]
      at first second ⊢
  · exact lt_trans first second
  · exact lt_trans second first

/-- A row that is preferred to none but is not preferred either keeps its place. -/
theorem not_prefers_trans (first : ¬ term.Prefers schema x y)
    (second : ¬ term.Prefers schema y z) : ¬ term.Prefers schema x z := by
  unfold Prefers at first second ⊢
  cases direction : term.descending
  all_goals
    simp only [direction, if_true, Bool.false_eq_true, if_false, Scalar.precedes_iff, not_lt]
      at first second ⊢
  · exact le_trans second first
  · exact le_trans first second

/-- Neither of two rows is preferred. -/
def Ties (term : OrderTerm) (schema : Schema) (x y : Row) : Prop :=
  ¬ term.Prefers schema x y ∧ ¬ term.Prefers schema y x

theorem ties_of_value_eq
    (same : x.value schema term.field = y.value schema term.field) : term.Ties schema x y := by
  unfold Ties Prefers
  rw [same]
  simp [Scalar.precedes_iff]

end OrderTerm

/-! ## Rows -/

variable {schema : Schema} {terms : List OrderTerm} {x y z : Row}

theorem standsBefore_cons (term : OrderTerm) (rest : List OrderTerm) :
    standsBefore schema (term :: rest) x y = true ↔
      term.Prefers schema x y ∨
        ¬ term.Prefers schema y x ∧ standsBefore schema rest x y = true := by
  rw [standsBefore]
  unfold OrderTerm.Prefers
  cases term.descending <;> simp

theorem standsBefore_total (schema : Schema) (terms : List OrderTerm) (x y : Row) :
    standsBefore schema terms x y = true ∨ standsBefore schema terms y x = true := by
  induction terms with
  | nil => exact Or.inl rfl
  | cons term rest ih =>
      rw [standsBefore_cons, standsBefore_cons]
      by_cases first : term.Prefers schema x y
      · exact Or.inl (Or.inl first)
      · by_cases second : term.Prefers schema y x
        · exact Or.inr (Or.inl second)
        · rcases ih with before | after
          · exact Or.inl (Or.inr ⟨second, before⟩)
          · exact Or.inr (Or.inr ⟨first, after⟩)

theorem standsBefore_trans (first : standsBefore schema terms x y = true)
    (second : standsBefore schema terms y z = true) : standsBefore schema terms x z = true := by
  induction terms with
  | nil => rfl
  | cons term rest ih =>
      rw [standsBefore_cons] at first second ⊢
      by_cases preferred : term.Prefers schema x z
      · exact Or.inl preferred
      · -- Without a preference at this term the rows are told apart by later ones.
        refine Or.inr ?_
        rcases first with less | ⟨notMore, restFirst⟩
        · rcases second with less' | ⟨notMore', -⟩
          · exact absurd (less.trans less') preferred
          · exact absurd less (OrderTerm.not_prefers_trans preferred notMore')
        · rcases second with less' | ⟨notMore', restSecond⟩
          · exact absurd less' (OrderTerm.not_prefers_trans notMore preferred)
          · exact ⟨OrderTerm.not_prefers_trans notMore' notMore, ih restFirst restSecond⟩

/-- Two rows are in the order of terms when a term prefers the second only where a term
before it prefers the first. -/
def InOrder (schema : Schema) (terms : List OrderTerm) (x y : Row) : Prop :=
  ∀ earlier term later, terms = earlier ++ term :: later → term.Prefers schema y x →
    ∃ first ∈ earlier, first.Prefers schema x y

/-- **One row stands before another when they are in order.** -/
theorem standsBefore_iff : standsBefore schema terms x y = true ↔ InOrder schema terms x y := by
  induction terms with
  | nil =>
      refine ⟨fun _ earlier term later whole => ?_, fun _ => rfl⟩
      cases earlier <;> cases whole
  | cons term rest ih =>
      rw [standsBefore_cons, ih]
      constructor
      · rintro before earlier other later whole preferred
        cases earlier with
        | nil =>
            obtain ⟨rfl, -⟩ := List.cons.inj whole
            rcases before with first | ⟨notMore, -⟩
            · exact absurd preferred first.asymm
            · exact absurd preferred notMore
        | cons head earlier =>
            obtain ⟨rfl, rest_⟩ := List.cons.inj whole
            rcases before with first | ⟨-, inOrder⟩
            · exact ⟨term, List.mem_cons_self, first⟩
            · obtain ⟨first, member, prefers⟩ := inOrder earlier other later rest_ preferred
              exact ⟨first, List.mem_cons_of_mem _ member, prefers⟩
      · intro inOrder
        by_cases first : term.Prefers schema x y
        · exact Or.inl first
        · refine Or.inr ⟨fun preferred => ?_, fun earlier other later whole preferred => ?_⟩
          · obtain ⟨_, member, -⟩ := inOrder [] term rest rfl preferred
            cases member
          · obtain ⟨head, member, prefers⟩ :=
              inOrder (term :: earlier) other later (by rw [whole]; rfl) preferred
            rcases List.mem_cons.1 member with rfl | behind
            · exact absurd prefers first
            · exact ⟨head, behind, prefers⟩

/-- **Rows tie when no term tells them apart.** -/
theorem ties_iff :
    standsBefore schema terms x y = true ∧ standsBefore schema terms y x = true ↔
      ∀ term ∈ terms, term.Ties schema x y := by
  induction terms with
  | nil => exact ⟨fun _ term member => (List.not_mem_nil member).elim, fun _ => ⟨rfl, rfl⟩⟩
  | cons term rest ih =>
      rw [standsBefore_cons, standsBefore_cons, List.forall_mem_cons, ← ih]
      constructor
      · rintro ⟨first | ⟨notMore, before⟩, second | ⟨notLess, after⟩⟩
        · exact absurd second first.asymm
        · exact absurd first notLess
        · exact absurd second notMore
        · exact ⟨⟨notLess, notMore⟩, before, after⟩
      · rintro ⟨⟨notLess, notMore⟩, before, after⟩
        exact ⟨Or.inr ⟨notMore, before⟩, Or.inr ⟨notLess, after⟩⟩

end CatalogListing
