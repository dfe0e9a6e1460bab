/-
# Store.Match -- which rows a selection wants

The meaning of the conditions of a selection, row by row.  A test on null is unknown,
and so is everything that hangs on it; a row is wanted when its condition is true.

* `RowTest.outcome` evaluates a leaf, `Clause.outcome` the tree of a filter key.
* A clause of the service is evaluated as the comparison whose SQL it is.
-/
import CatalogListing.Select.Plan
import CatalogListing.Store.Database

namespace CatalogListing

set_option autoImplicit false

open CatalogListing.Filter (Comparison Condition Clause Operand)

/-! ## Truth with an unknown -/

/-- The conjunction: false when one is false, else unknown when one is unknown. -/
def allOf (outcomes : List (Option Bool)) : Option Bool :=
  if outcomes.contains (some false) then some false
  else if outcomes.contains none then none
  else some true

/-- The disjunction: true when one is true, else unknown when one is unknown. -/
def anyOf (outcomes : List (Option Bool)) : Option Bool :=
  if outcomes.contains (some true) then some true
  else if outcomes.contains none then none
  else some false

/-! ## Conditions on a value -/

/-- The comparison holds between two values that are not null. -/
def Filter.Comparison.holds (comparison : Comparison) (value operand : Scalar) : Bool :=
  match comparison with
  | .equal => value.same operand
  | .notEqual => !value.same operand
  | .less => value.precedes operand
  | .greater => operand.precedes value
  | .atMost => !operand.precedes value
  | .atLeast => !value.precedes operand

/-- An operand as a value. -/
def Filter.Operand.scalar : Operand → Scalar
  | .boolean b => .integer (if b then 1 else 0)
  | .text t => .text t

/-- The outcome of a condition on a value of a column of the affinity. -/
def Filter.Condition.outcome (affinity : Affinity) (value : Scalar) : Condition → Option Bool
  | .compare comparison operand =>
      if value.isNull then none
      else some (comparison.holds value (operand.scalar.operandFor affinity))
  | .like pattern => value.textForm?.map (Wildcard.matchesText pattern)
  | .member negated items =>
      if value.isNull || items.isEmpty then none
      else
        let found := items.any fun item => value.same ((Scalar.text item).operandFor affinity)
        some (found != negated)
  | .null negated => some (value.isNull != negated)
  | .fullText _ => none

/-! ## Rows -/

/-- Whether the full-text index finds a row. -/
def Database.finds (db : Database) (query : Text) (key : Int) : Bool :=
  match db.index, Search.phrases query with
  | some index, .ok phrases => Search.finds index phrases key
  | _, _ => false

/-- The outcome of a test on a row. -/
def RowTest.outcome (db : Database) (schema : Schema) (row : Row) : RowTest → Option Bool
  | .column name condition =>
      condition.outcome (schema.affinityOf name) (row.value schema name)
  | .indexed _ _ _ _ query => some (db.finds query row.key)

/-- The outcome of the clause of a filter key on a row. -/
def Filter.Clause.outcome (db : Database) (schema : Schema) (row : Row) (clause : Clause RowTest) :
    Option Bool :=
  anyOf (clause.alternatives.map fun tests => allOf (tests.map (RowTest.outcome db schema row)))

/-- Every comparison. -/
def comparisons : List Comparison :=
  [.equal, .notEqual, .less, .greater, .atMost, .atLeast]

/-- The operand that the parameters of a clause are. -/
def operandOf? : List Sql.Parameter → Option Operand
  | [.boolean b] => some (.boolean b)
  | [.text t] => some (.text t)
  | _ => none

/-- The test of a row whose SQL is the clause of a service. -/
def customTest? (schema : Schema) (clause : Text) (parameters : List Sql.Parameter) :
    Option RowTest := do
  let operand ← operandOf? parameters
  let candidates := schema.columnNames.flatMap fun column =>
    comparisons.map fun comparison => RowTest.column column (.compare comparison operand)
  candidates.find? fun test => test.fragment.sql == clause

/-- The outcome of the clause of a service on a row. -/
def customOutcome (db : Database) (schema : Schema) (row : Row) (clause : Text)
    (parameters : List Sql.Parameter) : Option Bool :=
  (customTest? schema clause parameters).bind (RowTest.outcome db schema row)

namespace Selection

/-- The outcome of the whole condition on a row. -/
def outcome (selection : Selection) (db : Database) (schema : Schema) (row : Row) : Option Bool :=
  allOf (selection.clauses.map (Clause.outcome db schema row) ++
    selection.custom.map fun custom => customOutcome db schema row custom.1 custom.2)

/-- The selection wants the row. -/
def wants (selection : Selection) (db : Database) (schema : Schema) (row : Row) : Bool :=
  selection.outcome db schema row == some true

end Selection

end CatalogListing
