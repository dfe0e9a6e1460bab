/-
# Proofs.Filter.Tree -- a condition read back as a tree

The text of a condition read as the grammar has it: a test is a name with an operator and
its placeholder.

* `condition?` reads the text of a condition, `none` if it is none;
* `Writes` says which items a text is read as wherever it stands outside of names, which goes
  along with the writing of conditions (`Writes.composes`);
* `Leaf.writes`: a test is read as the column and the operator that it was written from.
-/
import CatalogListing.Proofs.Filter.Grammar
import CatalogListing.Proofs.Sql.Token

namespace CatalogListing.Filter

set_option autoImplicit false

open Sql (Token Lexes Takes)

/-! ## Tests without their operands -/

/-- What a condition asks, without its operand. -/
inductive Shape where
  | compare (comparison : Comparison)
  | like
  | member (negated : Bool)
  | null (negated : Bool)
  | fullText
  deriving DecidableEq, Repr

def Condition.shape : Condition → Shape
  | .compare comparison _ => .compare comparison
  | .like _ => .like
  | .member negated _ => .member negated
  | .null negated => .null negated
  | .fullText _ => .fullText

/-- A condition of the shape, with an empty operand. -/
def Shape.bare : Shape → Condition
  | .compare comparison => .compare comparison (.text [])
  | .like => .like []
  | .member negated => .member negated []
  | .null negated => .null negated
  | .fullText => .fullText []

/-- The operand of a condition has no part in its SQL. -/
theorem Condition.test_bare_shape (condition : Condition) :
    condition.shape.bare.test = condition.test := by
  cases condition with
  | member negated items => cases negated <;> rfl
  | null negated => cases negated <;> rfl
  | _ => rfl

/-- A test as it is read: a column and what is asked of it.  Unless a null test is
asked, one placeholder belongs to it. -/
structure Leaf where
  column : Text
  shape : Shape
  deriving DecidableEq, Repr

/-! ## Items -/

/-- The comparison that an operator writes. -/
def comparison? (operator : Text) : Option Comparison :=
  [Comparison.equal, .notEqual, .less, .greater, .atMost, .atLeast].find?
    fun comparison => comparison.operator == operator

theorem comparison?_operator (comparison : Comparison) :
    comparison? comparison.operator = some comparison := by
  cases comparison <;> decide

/-- The items of the tokens of a condition. -/
def items? : List Token → Option (List (Item Leaf))
  | [] => some []
  | .keyword .and :: rest => (items? rest).map (.and :: ·)
  | .keyword .or :: rest => (items? rest).map (.or :: ·)
  | .opening :: rest => (items? rest).map (.opening :: ·)
  | .closing :: rest => (items? rest).map (.closing :: ·)
  | .name column :: .operator operator :: .placeholder :: rest =>
      (comparison? operator).bind fun comparison =>
        (items? rest).map (.test ⟨column, .compare comparison⟩ :: ·)
  | .name column :: .keyword .like :: .placeholder :: rest =>
      (items? rest).map (.test ⟨column, .like⟩ :: ·)
  | .name column :: .keyword .member :: .opening :: .placeholder :: .closing :: rest =>
      (items? rest).map (.test ⟨column, .member false⟩ :: ·)
  | .name column :: .keyword .not :: .keyword .member :: .opening :: .placeholder :: .closing ::
      rest => (items? rest).map (.test ⟨column, .member true⟩ :: ·)
  | .name column :: .keyword .is :: .keyword .null :: rest =>
      (items? rest).map (.test ⟨column, .null false⟩ :: ·)
  | .name column :: .keyword .is :: .keyword .not :: .keyword .null :: rest =>
      (items? rest).map (.test ⟨column, .null true⟩ :: ·)
  | .name column :: .keyword .matching :: .placeholder :: rest =>
      (items? rest).map (.test ⟨column, .fullText⟩ :: ·)
  | _ => none

/-- In front of anything else the tokens become the items. -/
def Yields (tokens : List Token) (items : List (Item Leaf)) : Prop :=
  ∀ rest : List Token, items? (tokens ++ rest) = (items? rest).map (items ++ ·)

theorem Yields.append {tokens more : List Token} {items others : List (Item Leaf)}
    (yields : Yields tokens items) (later : Yields more others) :
    Yields (tokens ++ more) (items ++ others) := by
  intro rest
  rw [List.append_assoc, yields, later, Option.map_map]
  simp [Function.comp_def]

/-- The tokens behind the column of a test. -/
def Shape.tokens : Shape → List Token
  | .compare comparison => [.operator comparison.operator, .placeholder]
  | .like => [.keyword .like, .placeholder]
  | .member false => [.keyword .member, .opening, .placeholder, .closing]
  | .member true => [.keyword .not, .keyword .member, .opening, .placeholder, .closing]
  | .null false => [.keyword .is, .keyword .null]
  | .null true => [.keyword .is, .keyword .not, .keyword .null]
  | .fullText => [.keyword .matching, .placeholder]

theorem Shape.yields (column : Text) (shape : Shape) :
    Yields (.name column :: shape.tokens) [.test ⟨column, shape⟩] := by
  intro rest
  cases shape with
  | compare comparison =>
      simp [Shape.tokens, items?, comparison?_operator]
  | member negated => cases negated <;> rfl
  | null negated => cases negated <;> rfl
  | _ => rfl

/-! ## Texts as items -/

/-- Wherever the text stands outside of names, it is read as the items. -/
def Writes (text : Text) (items : List (Item Leaf)) : Prop :=
  ∃ lexemes tokens, Lexes text lexemes ∧ Takes lexemes tokens ∧ Yields tokens items

namespace Writes

variable {text other : Text} {items others : List (Item Leaf)}

theorem append (writes : Writes text items) (more : Writes other others) :
    Writes (text ++ other) (items ++ others) := by
  obtain ⟨lexemes, tokens, lexes, takes, yields⟩ := writes
  obtain ⟨lexemes', tokens', lexes', takes', yields'⟩ := more
  exact ⟨lexemes ++ lexemes', tokens ++ tokens', lexes.append lexes', takes.append takes',
    yields.append yields'⟩

/-- Parameters have no part in how a text is read. -/
theorem composes : Composes fun text (_ : List Sql.Parameter) items => Writes text items where
  nil := ⟨[], [], .nil, fun _ => rfl, fun rest => by simp⟩
  append := append
  and := ⟨_, [.keyword .and], Lexes.plain (by decide), fun _ => rfl, fun _ => rfl⟩
  or := ⟨_, [.keyword .or], Lexes.plain (by decide), fun _ => rfl, fun _ => rfl⟩
  opening := ⟨_, [.opening], Lexes.plain (by decide), fun _ => rfl, fun _ => rfl⟩
  closing := ⟨_, [.closing], Lexes.plain (by decide), fun _ => rfl, fun _ => rfl⟩

end Writes

/-- A test of a shape on a column in SQL. -/
def Leaf.sql (leaf : Leaf) : Text :=
  Sql.quote leaf.column ++ ' ' :: leaf.shape.bare.test

/-- The SQL behind the column has the tokens of the shape. -/
theorem Shape.takes (shape : Shape) :
    Takes ((' ' :: shape.bare.test).map .char) shape.tokens := by
  cases shape with
  | compare comparison => cases comparison <;> exact fun _ => rfl
  | member negated => cases negated <;> exact fun _ => rfl
  | null negated => cases negated <;> exact fun _ => rfl
  | _ => exact fun _ => rfl

theorem Shape.plain (shape : Shape) : Sql.backtick ∉ (' ' :: shape.bare.test) := by
  cases shape with
  | compare comparison => cases comparison <;> decide
  | member negated => cases negated <;> decide
  | null negated => cases negated <;> decide
  | _ => decide

theorem Leaf.writes (leaf : Leaf) : Writes leaf.sql [.test leaf] := by
  refine ⟨_, _, Lexes.quote leaf.column (by decide) (Lexes.plain leaf.shape.plain), ?_,
    leaf.shape.yields leaf.column⟩
  exact (Takes.name leaf.column).append leaf.shape.takes

/-! ## Conditions -/

/-- The tree of the text of a condition, if it is one. -/
def condition? (text : Text) : Option (Tree Leaf) :=
  ((Sql.lexemes? text).bind fun lexemes => items? (Sql.tokensOf lexemes)).bind tree?

theorem Writes.condition?_eq {text : Text} {items : List (Item Leaf)}
    (writes : Writes text items) : condition? text = tree? items := by
  obtain ⟨lexemes, tokens, lexes, takes, yields⟩ := writes
  have read : items? tokens = some items := by
    simpa [items?] using yields []
  simp [condition?, lexes.lexemes?_eq, takes.tokensOf_eq, read]

end CatalogListing.Filter
