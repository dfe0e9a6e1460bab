/-
# Proofs.Store.Fetch -- what a fetch returns

A fetch that completes has run: its selection is within the limits of statements, the
indexes that it needs are there and its tests raise no fault (`Runs`).  It returns the
page of the matching rows, each with what its associations attach to it (`fullRecord`),
and the count of all matching rows.

* `attachments_eq`: an association attaches the rows of its table with the key of a row,
  or is refused for too many keys;
* `fetch_eq_ok_iff`: a fetch completes exactly when it runs and no association is
  refused, and then with what;
* `fetch_eq_of_ungrouped`: a fetch does not see the parentheses around tests, and of the
  names only the associations that they ask for.
-/
import CatalogListing.Proofs.Store.Resources
import CatalogListing.Proofs.Store.Page
import CatalogListing.Store.Fetch

namespace CatalogListing

set_option autoImplicit false

/-! ## Associations -/

theorem eraseDupsBy_sublist {α : Type} (same : α → α → Bool) (list : List α) :
    (list.eraseDupsBy same).Sublist list := by
  induction length : list.length using Nat.strongRecOn generalizing list with
  | ind n ih =>
      cases list with
      | nil => exact .refl _
      | cons first rest =>
          rw [List.eraseDupsBy_cons]
          refine List.Sublist.cons_cons first ?_
          have others : (rest.filter fun other => same other first = false).Sublist rest :=
            List.filter_sublist
          rw [List.length_cons] at length
          have shorter := others.length_le
          exact (ih _ (by omega) _ rfl).trans others

namespace Association

variable {association : Association} {db : Database} {schema : Schema} {rows : List Row}

/-- A page refers to no more keys than it has rows. -/
theorem length_keysOf_le (association : Association) (schema : Schema) (rows : List Row) :
    (association.keysOf schema rows).length ≤ rows.length := by
  refine (eraseDupsBy_sublist _ _).length_le.trans ((List.length_filter_le _ _).trans ?_)
  rw [List.length_map]

/-- What the association attaches to a row of a page. -/
def attached (association : Association) (db : Database) (schema : Schema) (rows : List Row)
    (row : Row) : Json :=
  match db.table? association.table with
  | some table => association.attachment table
      (association.related table (association.keysOf schema rows))
      (row.value schema association.localKey)
  | none => .null

theorem related_nil (association : Association) (table : Table) :
    association.related table [] = [] := by
  simp [related]

/-- **An association attaches to each row what belongs to it**, unless the page refers to
too many keys. -/
theorem attachments_eq {table : Table} (found : db.table? association.table = some table) :
    association.attachments db schema rows =
      if maxArguments < (association.keysOf schema rows).length then
        .error (.rejected 1 "too many SQL variables")
      else .ok (rows.map (association.attached db schema rows)) := by
  have requires : db.requireTable association.table = .ok table := by
    rw [Database.requireTable, found]
  have attached_eq : association.attached db schema rows = fun row =>
      association.attachment table (association.related table (association.keysOf schema rows))
        (row.value schema association.localKey) := by
    funext row
    simp only [attached, found]
  unfold attachments
  split
  · rename_i none_
    -- Nothing is related to no keys.
    rw [if_neg (by rw [none_]; exact Nat.not_lt_zero _), attached_eq, none_, related_nil]
    unfold attachment
    cases association.cardinality <;> rfl
  · unfold requireKeys
    split
    · rfl
    · rw [attached_eq]
      simp only [bind, Except.bind, requires]
      rfl

end Association

/-! ## Records -/

/-- The associations of a resource that names ask for. -/
def Resource.named (resource : Resource) (names : List Text) : List Association :=
  names.filterMap resource.association?

/-- The record of a row of a page, with what its associations attach to it. -/
def fullRecord (db : Database) (schema : Schema) (rows : List Row)
    (associations : List Association) (row : Row) : Record :=
  row.record schema ++ associations.map fun association =>
    (association.name, association.attached db schema rows row)

/-- No association has more keys to look for than a statement may have arguments. -/
def Attaches (schema : Schema) (rows : List Row) (associations : List Association) : Prop :=
  ∀ association ∈ associations, (association.keysOf schema rows).length ≤ maxArguments

theorem Attaches.of_length_le {rows : List Row} (few : rows.length ≤ maxArguments)
    (schema : Schema) (associations : List Association) : Attaches schema rows associations :=
  fun association _ => (association.length_keysOf_le schema rows).trans few

namespace Database

variable {db : Database} {schema : Schema} {rows : List Row}

/-- The associations are attached one after the other. -/
theorem foldlM_attach (associations : List Association)
    (present : ∀ association ∈ associations, ∃ table, db.table? association.table = some table)
    (before : Row → Record) (records : List Record) :
    associations.foldlM (fun records association => attach db schema rows association records)
        (rows.map before) = .ok records ↔
      Attaches schema rows associations ∧
        records = rows.map fun row => before row ++ associations.map fun association =>
          (association.name, association.attached db schema rows row) := by
  induction associations generalizing before with
  | nil =>
      simp only [List.foldlM_nil, Attaches, List.map_nil, List.append_nil]
      constructor
      · intro done
        obtain rfl := Except.ok.inj done
        exact ⟨fun _ member => (List.not_mem_nil member).elim, rfl⟩
      · rintro ⟨-, rfl⟩
        rfl
  | cons association rest ih =>
      obtain ⟨table, found⟩ := present association List.mem_cons_self
      rw [List.foldlM_cons, attach, Association.attachments_eq found]
      by_cases many : maxArguments < (association.keysOf schema rows).length
      · rw [if_pos many]
        constructor
        · intro done
          cases done
        · rintro ⟨attaches, -⟩
          exact absurd (attaches association List.mem_cons_self) (Nat.not_le.2 many)
      · have attachesRest : Attaches schema rows (association :: rest) ↔
            Attaches schema rows rest := by
          simp only [Attaches, List.forall_mem_cons, Nat.le_of_not_lt many, true_and]
        rw [if_neg many, attachesRest]
        have next := ih (fun other member => present other (List.mem_cons_of_mem _ member))
          fun row => before row ++ [(association.name, association.attached db schema rows row)]
        simp only [List.append_assoc, List.singleton_append] at next
        simp only [List.map_cons, ← next, bind, Except.bind, List.zipWith_map, List.zipWith_self]
        rfl

/-- Only the associations that the names ask for count. -/
theorem attachAll_eq (db : Database) (resource : Resource) (schema : Schema) (rows : List Row)
    (names : List Text) :
    db.attachAll resource schema rows names =
      (resource.named names).foldlM
        (fun records association => attach db schema rows association records)
        (rows.map fun row => row.record schema) := rfl

theorem attachAll_eq_ok_iff (resource : Resource) (names : List Text)
    (present : ∀ association ∈ resource.associations,
      ∃ table, db.table? association.table = some table) (records : List Record) :
    db.attachAll resource schema rows names = .ok records ↔
      Attaches schema rows (resource.named names) ∧
        records = rows.map (fullRecord db schema rows (resource.named names)) := by
  refine foldlM_attach (resource.named names) (fun association member => ?_) _ _
  obtain ⟨name, -, asked⟩ := List.mem_filterMap.1 member
  exact present association (List.mem_of_find?_eq_some asked)

end Database

/-! ## Fetches -/

/-- The selection runs on a table of a database: no statement for it is refused, and none
of the tests that are reached raises a fault. -/
structure Selection.Runs (selection : Selection) (scan : Scan) (db : Database) (table : Table) :
    Prop where
  size : selection.requireSize = .ok ()
  indexes : selection.requireIndexes db = .ok ()
  order : selection.requireOrder = .ok ()
  tests : selection.requireTests scan db table = .ok ()

/-- A scan runs no test that is foreign to the selection. -/
theorem Selection.reached_subset_tests {selection : Selection} {scan : Scan} {db : Database}
    {table : Table} : selection.reached scan db table ⊆ selection.tests := by
  intro test member
  unfold reached at member
  split at member
  · rename_i alone _
    rwa [alone]
  · exact List.contains_iff_mem.1 (List.mem_filter.1 member).2

/-- **A fetch completes when its selection runs and no association is refused**, with the
page of the matching rows and their count. -/
theorem Database.fetch_eq_ok_iff {db : Database} (scan : Scan) (selection : Selection)
    {table : Table} (found : db.table? selection.resource.table = some table)
    (present : ∀ association ∈ selection.resource.associations,
      ∃ other, db.table? association.table = some other) (names : List Text) (listed : Listed) :
    db.fetch scan selection names = .ok listed ↔
      (selection.Runs scan db table ∧
        Attaches table.schema (selection.page scan db table) (selection.resource.named names)) ∧
      listed = ⟨(selection.page scan db table).map (fullRecord db table.schema
        (selection.page scan db table) (selection.resource.named names)),
          (selection.matching db table).length⟩ := by
  have requires : db.requireTable selection.resource.table = .ok table := by
    rw [requireTable, found]
  have attaching (records : List Record) :
      db.attachAll selection.resource table.schema (selection.page scan db table) names =
          .ok records ↔
        Attaches table.schema (selection.page scan db table) (selection.resource.named names) ∧
          records = (selection.page scan db table).map (fullRecord db table.schema
            (selection.page scan db table) (selection.resource.named names)) :=
    attachAll_eq_ok_iff selection.resource names present records
  unfold fetch
  constructor
  · intro done
    obtain ⟨⟨⟩, size, done⟩ := ok_of_bind done
    obtain ⟨other, required, done⟩ := ok_of_bind done
    obtain rfl := Except.ok.inj (requires.symm.trans required)
    obtain ⟨⟨⟩, indexes, done⟩ := ok_of_bind done
    obtain ⟨⟨⟩, order, done⟩ := ok_of_bind done
    obtain ⟨⟨⟩, tests, done⟩ := ok_of_bind done
    obtain ⟨records, attached, done⟩ := ok_of_bind done
    obtain ⟨attaches, rfl⟩ := (attaching records).1 attached
    exact ⟨⟨⟨size, indexes, order, tests⟩, attaches⟩, (Except.ok.inj done).symm⟩
  · rintro ⟨⟨⟨size, indexes, order, tests⟩, attaches⟩, rfl⟩
    have attached := (attaching _).2 ⟨attaches, rfl⟩
    simp only [size, requires, indexes, order, tests, attached, bind, Except.bind]
    rfl

/-! ## What a fetch does not see -/

namespace Selection

variable (selection : Selection)

theorem ungrouped_ungrouped : selection.ungrouped.ungrouped = selection.ungrouped := by
  simp only [ungrouped, List.map_map]
  rfl

theorem width_ungrouped : selection.ungrouped.predicate.width = selection.predicate.width := by
  simp only [Sql.Predicate.width, predicate, ungrouped, Filter.predicateOf, List.flatMap_map]
  rfl

theorem tests_ungrouped : selection.ungrouped.tests = selection.tests := by
  simp only [tests, ungrouped, List.flatMap_map]
  rfl

theorem depth_ungrouped : selection.ungrouped.depth = selection.depth := by
  simp only [depth, ownDepth, tests_ungrouped]
  simp only [ungrouped, List.map_map]
  rfl

theorem wants_ungrouped : selection.ungrouped.wants = selection.wants := by
  funext db schema row
  simp only [wants, outcome, ungrouped, List.map_map]
  rfl

theorem reached_ungrouped : selection.ungrouped.reached = selection.reached := by
  funext scan db table
  simp only [reached, tests_ungrouped, ungrouped_ungrouped]
  rfl

theorem page_ungrouped : selection.ungrouped.page = selection.page := by
  funext scan db table
  simp only [page, sorted, matching, wants_ungrouped, ungrouped_ungrouped]
  rfl

end Selection

/-- A fetch does not see the parentheses around tests. -/
theorem Database.fetch_ungrouped (db : Database) (scan : Scan) (selection : Selection)
    (names : List Text) :
    db.fetch scan selection.ungrouped names = db.fetch scan selection names := by
  have size : selection.ungrouped.requireSize = selection.requireSize := by
    simp only [Selection.requireSize, selection.width_ungrouped, selection.depth_ungrouped]
  have indexes : selection.ungrouped.requireIndexes db = selection.requireIndexes db := by
    simp only [Selection.requireIndexes, selection.tests_ungrouped]
  have tests : selection.ungrouped.requireTests = selection.requireTests := by
    funext scan db table
    simp only [Selection.requireTests, selection.reached_ungrouped]
  have matching : selection.ungrouped.matching = selection.matching := by
    funext db table
    simp only [Selection.matching, selection.wants_ungrouped]
  unfold fetch
  rw [size, indexes, tests, selection.page_ungrouped, matching]
  rfl

/-- Selections that differ in parentheses only fetch the same, with names that ask for the
same associations. -/
theorem Database.fetch_eq_of_ungrouped (db : Database) (scan : Scan) {selection other : Selection}
    (same : other.ungrouped = selection.ungrouped) {names others : List Text}
    (named : selection.resource.named others = selection.resource.named names) :
    db.fetch scan other others = db.fetch scan selection names := by
  rw [← fetch_ungrouped db scan other, same, fetch_ungrouped]
  simp only [fetch, attachAll_eq, named]

end CatalogListing
