/-
# Proofs.Listing.Complement -- values behind a tilde

A value that asks for equality with a text or for an element of a set asks for the opposite
behind a tilde: no row matches both, and every row matches one of the two unless it has null in
the column (`negation_is_complement`).

A truth value behind a tilde is read as a text (`classify_negated_truth`), so its opposite is
the set of that text; the truth value itself and its negation can match the same row
(`truth_and_negation_share_author`).
-/
import CatalogListing.Proofs.Filter.Form
import CatalogListing.Proofs.Listing.Column
import CatalogListing.Proofs.Listing.Limits

namespace CatalogListing

set_option autoImplicit false

open CatalogListing.Filter (Condition boolean? classify coerce)

/-! ## Opposite conditions -/

namespace Filter

/-- Of a value that is not null one condition is true and the other false, of null neither. -/
def Condition.Opposite (condition other : Condition) : Prop :=
  ∀ (affinity : Affinity) (value : Scalar),
    if value.isNull then
      condition.outcome affinity value = none ∧ other.outcome affinity value = none
    else ∃ b : Bool,
      condition.outcome affinity value = some b ∧ other.outcome affinity value = some !b

/-- Opposite conditions are not both true, and one is unless the value is null. -/
theorem Condition.Opposite.of_true {condition other : Condition} (opposite : condition.Opposite other)
    (affinity : Affinity) (value : Scalar) :
    ¬ (condition.outcome affinity value = some true ∧ other.outcome affinity value = some true) ∧
      (condition.outcome affinity value = some true ∨ other.outcome affinity value = some true ↔
        value ≠ .null) := by
  have outcomes := opposite affinity value
  by_cases null : value = .null
  · subst null
    obtain ⟨left, right⟩ := outcomes
    simp [left, right]
  · have some_ : value.isNull = false := by
      cases value with
      | null => exact absurd rfl null
      | integer | real | text | blob => rfl
    rw [some_] at outcomes
    obtain ⟨b, left, right⟩ := outcomes
    cases b <;> simp [left, right, null]

/-- A full text has no opposite. -/
theorem Condition.Opposite.not_fullText {condition other : Condition}
    (opposite : condition.Opposite other) :
    (∀ text, condition ≠ .fullText text) ∧ ∀ text, other ≠ .fullText text := by
  obtain ⟨b, left, right⟩ := opposite .integer (.integer 0)
  constructor
  · rintro text rfl
    cases left
  · rintro text rfl
    cases right

theorem opposite_compare (operand : Operand) :
    (Condition.compare .equal operand).Opposite (.compare .notEqual operand) := by
  intro affinity value
  unfold Condition.outcome
  split
  · exact ⟨rfl, rfl⟩
  · exact ⟨_, rfl, rfl⟩

theorem opposite_member {items : List Text} (some_ : items ≠ []) :
    (Condition.member false items).Opposite (.member true items) := by
  intro affinity value
  unfold Condition.outcome
  simp only [List.isEmpty_eq_false_iff.2 some_, Bool.or_false]
  split
  · exact ⟨rfl, rfl⟩
  · exact ⟨_, rfl, by simp⟩

theorem opposite_single (text : Text) :
    (Condition.member false [text]).Opposite (.compare .notEqual (.text text)) := by
  intro affinity value
  unfold Condition.outcome
  simp only [List.isEmpty_cons, Bool.or_false]
  split
  · exact ⟨rfl, rfl⟩
  · exact ⟨_, rfl, by simp [Comparison.holds, Operand.scalar]⟩

/-- Equality with a text, or an element of a set. -/
def Condition.isPositive : Condition → Bool
  | .compare .equal (.text _) => true
  | .member false _ => true
  | _ => false

theorem isPositive_coerced (condition : Condition) :
    condition.coerced.isPositive = condition.isPositive := by
  cases condition with
  | compare comparison operand => cases comparison <;> cases operand <;> rfl
  | like | member | null | fullText => rfl

/-- **A tilde turns a positive condition around.** -/
theorem exists_opposite {value : Text} {condition : Condition}
    (asks : classify value = some condition) (positive : condition.isPositive = true) :
    ∃ other, classify ('~' :: value) = some other ∧ condition.Opposite other := by
  rcases classify_cases value with
    ⟨b, -, truth⟩ | ⟨-, none_⟩ | ⟨asked, ⟨wellFormed, unambiguous, rfl⟩, found⟩
  · obtain rfl := Option.some.inj (truth.symm.trans asks)
    cases positive
  · cases none_.symm.trans asks
  · obtain rfl := Option.some.inj (found.symm.trans asks)
    rw [isPositive_coerced] at positive
    cases asked with
    | compare comparison operand =>
        cases operand with
        | boolean b => cases comparison <;> cases positive
        | text t =>
            cases comparison with
            | equal =>
                have last := (isPattern_eq_false_iff.1 unambiguous.pattern).2
                have negated := @classify_written (.compare .notEqual (.text t))
                  ⟨wellFormed.1, fun lower => absurd lower (by decide)⟩ ⟨last, unambiguous.set⟩
                exact ⟨_, negated, opposite_compare _⟩
            | notEqual | less | greater | atMost | atLeast => cases positive
    | member negated items =>
        cases negated with
        | false =>
            have negated := @classify_written (.member true items) wellFormed trivial
            exact ⟨_, negated, opposite_member wellFormed.1⟩
        | true => cases positive
    | like | null | fullText => cases positive

/-- A truth value behind a tilde is a text. -/
theorem classify_negated_truth {value : Text} {b : Bool} (spelled : boolean? value = some b) :
    classify ('~' :: value) = some (.compare .notEqual (.text value)) ∧
      classify (writtenSet [value]) = some (.member false [value]) := by
  have read : ∀ value ∈ spellings,
      classify ('~' :: value) = some (.compare .notEqual (.text value)) ∧
        classify (writtenSet [value]) = some (.member false [value]) := by
    decide
  refine read value (Classical.byContradiction fun absent => ?_)
  cases (boolean?_eq_none_iff.2 absent).symm.trans spelled

end Filter

/-! ## Opposite rows -/

section

variable (service : ListingService) (now : Instant) (resource : Resource) (pairs : List Pair)
  (column : Text) (db : Database) (table : Table)

/-- No row matches both values, and one of them every row that has no null in the column. -/
structure Complementary (value other : Text) : Prop where
  disjoint : ∀ row ∈ rowsWith service now resource pairs column db table value,
    row ∉ rowsWith service now resource pairs column db table other
  covers : ∀ row, row ∈ rowsWith service now resource pairs column db table value ∨
      row ∈ rowsWith service now resource pairs column db table other ↔
    row ∈ (service.selectionOf now resource pairs).matching db table ∧
      row.value table.schema column ≠ .null

variable {service now resource pairs column db table}

theorem complementary_of_opposite (isColumn : IsColumn resource column) {value other : Text}
    {condition opposite : Condition} (asks : classify value = some condition)
    (asks' : classify other = some opposite) (opposed : condition.Opposite opposite) :
    Complementary service now resource pairs column db table value other := by
  obtain ⟨notText, notText'⟩ := opposed.not_fullText
  have mem (row : Row) := @mem_rowsWith_iff service now resource pairs db table row
    column value isColumn condition asks notText
  have mem' (row : Row) := @mem_rowsWith_iff service now resource pairs db table row
    column other isColumn opposite asks' notText'
  have one (row : Row) := opposed.of_true (table.schema.affinityOf column)
    (row.value table.schema column)
  constructor
  · intro row left right
    exact (one row).1 ⟨((mem row).1 left).2, ((mem' row).1 right).2⟩
  · intro row
    rw [mem, mem', ← and_or_left, (one row).2]

/-- **Negation is complement**, for equality with a text and for sets; a truth value behind a tilde
is the complement of the set of its spelling.  The rows of a value are those of which the
condition in the statements is true. -/
theorem negation_is_complement (listed : resource ∈ Catalog.resources)
    (filterable : column ∈ resource.filterable) (service : ListingService) (now : Instant)
    (pairs : List Pair) (db : Database) (table : Table) (value : Text) :
    (∀ condition, classify value = some condition → condition.isPositive = true →
      Complementary service now resource pairs column db table value ('~' :: value)) ∧
    (∀ b, boolean? value = some b →
      Complementary service now resource pairs column db table (Filter.writtenSet [value])
        ('~' :: value)) ∧
    (service.selectionOf now resource []).matching db table = table.rows ∧
    (Keeps table.schema resource → ∀ (text : Text), ∀ row ∈ table.rows,
      (row ∈ rowsWith service now resource pairs column db table text ↔
        (service.selectionOf now resource (pairs ++ [(column, text)])).predicate.expand.outcome? db
          table.schema row = some (some true))) := by
  have isColumn := Catalog.isColumn listed filterable
  refine ⟨fun condition asks positive => ?_, fun b spelled => ?_, matching_nil _ _ _ _ _,
    fun keeps text row member => mem_rowsWith_iff_outcome? listed keeps column text member⟩
  · obtain ⟨other, asks', opposed⟩ := Filter.exists_opposite asks positive
    exact complementary_of_opposite isColumn asks asks' opposed
  · obtain ⟨negated, single⟩ := Filter.classify_negated_truth spelled
    exact complementary_of_opposite isColumn single negated (Filter.opposite_single value)

end

/-- An author of no country and two of different ones, the last of whom is not active. -/
def writesOfCountries : List Write :=
  [.insert Tables.authors.name [("id", .integer 1), ("name", .text "A"),
      ("created_at", .text "2024-01-01")],
    .insert Tables.authors.name [("id", .integer 2), ("name", .text "B"), ("country", .text "GB"),
      ("created_at", .text "2024-01-01")],
    .insert Tables.authors.name [("id", .integer 3), ("name", .text "C"), ("country", .text "US"),
      ("active", .integer 0), ("created_at", .text "2024-01-01")]]

/-- The authors that match a value for a column. -/
def authorsWith (column value : Text) (db : Database) (table : Table) : List Row :=
  rowsWith (serviceOver db) 0 Catalog.authors [] column db table value

/-- Of the authors with a country one has it and one has another. -/
theorem country_and_negation_are_complementary :
    Catalog.authors ∈ Catalog.resources ∧ ("country" : Text) ∈ Catalog.authors.filterable ∧
      ∃ table, (emptyCatalog.afterAll writesOfCountries).table? Tables.authors.name = some table ∧
        (authorsWith "country" "GB" (emptyCatalog.afterAll writesOfCountries) table).map (·.key) =
          [2] ∧
        (authorsWith "country" "~GB" (emptyCatalog.afterAll writesOfCountries) table).map (·.key) =
          [3] ∧
        Complementary (serviceOver (emptyCatalog.afterAll writesOfCountries)) 0 Catalog.authors []
          "country" (emptyCatalog.afterAll writesOfCountries) table "GB" "~GB" := by
  have keys : ((emptyCatalog.afterAll writesOfCountries).table? Tables.authors.name).map
      (fun table =>
        ((authorsWith "country" "GB" (emptyCatalog.afterAll writesOfCountries) table).map (·.key),
        (authorsWith "country" "~GB" (emptyCatalog.afterAll writesOfCountries) table).map (·.key))) =
      some (([2], [3]) : List Int × List Int) := by
    rw [emptyCatalog, Migration.run_empty]
    decide +kernel
  generalize emptyCatalog.afterAll writesOfCountries = db at keys ⊢
  obtain ⟨table, found, both⟩ := Option.map_eq_some_iff.1 keys
  obtain ⟨one, another⟩ := Prod.mk.inj both
  have listed : Catalog.authors ∈ Catalog.resources := by decide
  have filterable : ("country" : Text) ∈ Catalog.authors.filterable := by decide
  have form : classify "GB" = some (.compare .equal (.text "GB")) := by decide +kernel
  obtain ⟨complement, -, -⟩ := negation_is_complement listed filterable (serviceOver db) 0 [] db
    table "GB"
  exact ⟨listed, filterable, table, found, one, another, complement _ form rfl⟩

/-- A truth value behind a tilde is a text, from which every number differs: an active author
matches both. -/
theorem truth_and_negation_share_author :
    Catalog.authors ∈ Catalog.resources ∧ ("active" : Text) ∈ Catalog.authors.filterable ∧
      classify "true" = some (.compare .equal (.boolean true)) ∧
      ∃ table, (emptyCatalog.afterAll writesOfCountries).table? Tables.authors.name = some table ∧
        (∃ row ∈ authorsWith "active" "true" (emptyCatalog.afterAll writesOfCountries) table,
          row ∈ authorsWith "active" "~true" (emptyCatalog.afterAll writesOfCountries) table) ∧
        ¬ Complementary (serviceOver (emptyCatalog.afterAll writesOfCountries)) 0 Catalog.authors []
          "active" (emptyCatalog.afterAll writesOfCountries) table "true" "~true" := by
  have shared : ((emptyCatalog.afterAll writesOfCountries).table? Tables.authors.name).map
      (fun table =>
        (authorsWith "active" "true" (emptyCatalog.afterAll writesOfCountries) table).any fun row =>
          (authorsWith "active" "~true" (emptyCatalog.afterAll writesOfCountries) table).elem row) =
      some true := by
    rw [emptyCatalog, Migration.run_empty]
    decide +kernel
  generalize emptyCatalog.afterAll writesOfCountries = db at shared ⊢
  obtain ⟨table, found, some_⟩ := Option.map_eq_some_iff.1 shared
  obtain ⟨row, left, right⟩ := List.any_eq_true.1 some_
  refine ⟨by decide, by decide, by decide, table, found, ⟨row, left, List.elem_iff.1 right⟩, ?_⟩
  exact fun complementary => complementary.disjoint row left (List.elem_iff.1 right)

end CatalogListing
