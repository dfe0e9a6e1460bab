/-
# Proofs.Query.Keyed -- entries in the order of their keys

Entries are ascending when every key comes strictly before those behind it.  Changing an
entry keeps them ascending (`Ascending.alter`), and then it is a map: the changed key
reads the changed value and every other key reads what it read before (`find?_alter`).

`Keyed.ofEntries` is the map of entries in any order, in which a later entry replaces an
earlier one of its key.
-/
import CatalogListing.Query.Parameters

namespace CatalogListing

set_option autoImplicit false

/-! ## The order of texts -/

namespace Text

theorem precedes_irrefl (text : Text) : precedes text text = false := by
  induction text with
  | nil => rfl
  | cons c rest ih => simp [precedes, ih]

theorem precedes_trans {a b c : Text} (first : precedes a b = true) (second : precedes b c = true) :
    precedes a c = true := by
  induction a generalizing b c with
  | nil =>
      cases c with
      | nil => cases b <;> simp [precedes] at second
      | cons z zs => rfl
  | cons x xs ih =>
      cases b with
      | nil => simp [precedes] at first
      | cons y ys =>
          cases c with
          | nil => simp [precedes] at second
          | cons z zs =>
              simp only [precedes, Bool.or_eq_true, Bool.and_eq_true, decide_eq_true_eq,
                beq_iff_eq] at first second ⊢
              rcases first with less | ⟨rfl, tail⟩
              · rcases second with less' | ⟨rfl, -⟩
                · exact Or.inl (Nat.lt_trans less less')
                · exact Or.inl less
              · rcases second with less' | ⟨rfl, tail'⟩
                · exact Or.inl less'
                · exact Or.inr ⟨rfl, ih tail tail'⟩

/-- Of two different texts one comes before the other. -/
theorem precedes_of_not {a b : Text} (ne : a ≠ b) (not : precedes a b = false) :
    precedes b a = true := by
  induction a generalizing b with
  | nil => cases b <;> simp_all [precedes]
  | cons x xs ih =>
      cases b with
      | nil => rfl
      | cons y ys =>
          simp only [precedes, Bool.or_eq_false_iff, decide_eq_false_iff_not, Nat.not_lt,
            Bool.or_eq_true, Bool.and_eq_true, decide_eq_true_eq, beq_iff_eq] at not ⊢
          by_cases same : x = y
          · subst same
            have tails : xs ≠ ys := fun e => ne (by rw [e])
            have later : precedes xs ys = false := by simpa using not.2
            exact Or.inr ⟨rfl, ih tails later⟩
          · have codes : y.toNat ≠ x.toNat := fun e => same (Char.toNat_inj.1 e.symm)
            exact Or.inl (by omega)

end Text

/-! ## Ascending entries -/

namespace Keyed

variable {α : Type}

/-- Every key comes strictly before those behind it. -/
def Ascending (entries : Keyed α) : Prop :=
  entries.Pairwise fun entry later => Text.precedes entry.1 later.1 = true

theorem find?_cons (key : Text) (entry : Text × α) (rest : Keyed α) :
    find? key (entry :: rest) = if key = entry.1 then some entry.2 else find? key rest := by
  obtain ⟨k, value⟩ := entry
  by_cases same : key = k
  · simp [find?, same]
  · have different : (key == k) = false := by simpa using same
    simp [find?, List.lookup_cons, same, different]

/-- A key before all those of the entries has no entry. -/
theorem find?_eq_none_of_precedes {key : Text} {entries : Keyed α}
    (before : ∀ entry ∈ entries, Text.precedes key entry.1 = true) :
    find? key entries = none := by
  rw [find?, List.lookup_eq_none_iff]
  intro entry member
  have less := before entry member
  by_cases same : key = entry.1
  · rw [same, Text.precedes_irrefl] at less
    cases less
  · simpa using same

theorem mem_keys_alter {key : Text} {change : Option α → α} {entries : Keyed α}
    {entry : Text × α} (member : entry ∈ alter key change entries) :
    entry.1 = key ∨ ∃ other ∈ entries, other.1 = entry.1 := by
  induction entries with
  | nil =>
      simp only [alter, List.mem_singleton] at member
      exact Or.inl (by rw [member])
  | cons head rest ih =>
      obtain ⟨k, value⟩ := head
      simp only [alter] at member
      split at member
      · rename_i same
        rcases List.mem_cons.1 member with rfl | later
        · exact Or.inl same
        · exact Or.inr ⟨entry, List.mem_cons_of_mem _ later, rfl⟩
      · split at member
        · rcases List.mem_cons.1 member with rfl | later
          · exact Or.inl rfl
          · exact Or.inr ⟨entry, later, rfl⟩
        · rcases List.mem_cons.1 member with rfl | later
          · exact Or.inr ⟨(k, value), List.mem_cons_self, rfl⟩
          · rcases ih later with same | ⟨other, found, same⟩
            · exact Or.inl same
            · exact Or.inr ⟨other, List.mem_cons_of_mem _ found, same⟩

theorem Ascending.alter {entries : Keyed α} (ascending : Ascending entries) (key : Text)
    (change : Option α → α) : Ascending (Keyed.alter key change entries) := by
  induction entries with
  | nil => exact List.pairwise_singleton _ _
  | cons head rest ih =>
      obtain ⟨k, value⟩ := head
      obtain ⟨first, later⟩ := List.pairwise_cons.1 ascending
      simp only [Keyed.alter]
      split
      · exact List.pairwise_cons.2 ⟨first, later⟩
      · rename_i ne
        split
        · rename_i less
          refine List.pairwise_cons.2 ⟨?_, ascending⟩
          intro entry member
          rcases List.mem_cons.1 member with rfl | behind
          · exact less
          · exact Text.precedes_trans less (first entry behind)
        · rename_i notLess
          have greater : Text.precedes k key = true :=
            Text.precedes_of_not (fun e => ne e.symm) (by simpa using notLess)
          refine List.pairwise_cons.2 ⟨?_, ih later⟩
          intro entry member
          rcases mem_keys_alter member with same | ⟨other, found, same⟩
          · rw [same]; exact greater
          · rw [← same]; exact first other found

/-- **Changing an entry changes nothing else.** -/
theorem find?_alter {entries : Keyed α} (ascending : Ascending entries) (key other : Text)
    (change : Option α → α) :
    find? other (Keyed.alter key change entries) =
      if other = key then some (change (find? key entries)) else find? other entries := by
  induction entries with
  | nil => rw [Keyed.alter, find?_cons]; rfl
  | cons head rest ih =>
      obtain ⟨k, value⟩ := head
      obtain ⟨first, later⟩ := List.pairwise_cons.1 ascending
      simp only [Keyed.alter]
      split
      · rename_i same
        subst same
        by_cases here : other = k <;> simp [find?_cons, here]
      · rename_i ne
        split
        · rename_i less
          have absent : find? key ((k, value) :: rest) = none := by
            apply find?_eq_none_of_precedes
            intro entry member
            rcases List.mem_cons.1 member with rfl | behind
            · exact less
            · exact Text.precedes_trans less (first entry behind)
          rw [find?_cons, absent]
        · have notHere : key ≠ k := fun e => ne e.symm
          by_cases here : other = k
          · simp [find?_cons, here, ne]
          · simp [find?_cons, here, notHere, ih later]

/-- In ascending entries an entry is what its key reads. -/
theorem find?_of_mem {entries : Keyed α} (ascending : Ascending entries) {entry : Text × α}
    (member : entry ∈ entries) : find? entry.1 entries = some entry.2 := by
  induction entries with
  | nil => cases member
  | cons head rest ih =>
      obtain ⟨first, later⟩ := List.pairwise_cons.1 ascending
      rw [find?_cons]
      rcases List.mem_cons.1 member with rfl | behind
      · simp
      · have less := first entry behind
        have ne : entry.1 ≠ head.1 := by
          intro e
          rw [e, Text.precedes_irrefl] at less
          cases less
        rw [if_neg ne]
        exact ih later behind

theorem mem_of_find? {entries : Keyed α} {key : Text} {value : α}
    (found : find? key entries = some value) : (key, value) ∈ entries := by
  rw [find?, List.lookup_eq_some_iff] at found
  obtain ⟨before, after, rfl, -⟩ := found
  simp

theorem mem_iff_find? {entries : Keyed α} (ascending : Ascending entries) {key : Text}
    {value : α} : (key, value) ∈ entries ↔ find? key entries = some value :=
  ⟨fun member => find?_of_mem ascending member, mem_of_find?⟩

/-! ## Maps -/

/-- The map of entries in any order; a later entry replaces an earlier one of its key. -/
def ofEntries (entries : List (Text × α)) : Keyed α :=
  entries.foldl (fun map entry => insert entry.1 entry.2 map) []

theorem ascending_foldl_insert (entries : List (Text × α)) {map : Keyed α}
    (ascending : Ascending map) :
    Ascending (entries.foldl (fun map entry => insert entry.1 entry.2 map) map) := by
  induction entries generalizing map with
  | nil => exact ascending
  | cons entry rest ih => exact ih (ascending.alter _ _)

theorem ascending_ofEntries (entries : List (Text × α)) : Ascending (ofEntries entries) :=
  ascending_foldl_insert entries List.Pairwise.nil

theorem find?_insert {map : Keyed α} (ascending : Ascending map) (key : Text)
    (entry : Text × α) :
    find? key (insert entry.1 entry.2 map) = (find? key [entry]).or (find? key map) := by
  rw [insert, find?_alter ascending, find?_cons]
  by_cases same : key = entry.1
  · simp [same]
  · rw [if_neg same, if_neg same]; rfl

theorem find?_foldl_insert (entries : List (Text × α)) {map : Keyed α}
    (ascending : Ascending map) (key : Text) :
    find? key (entries.foldl (fun map entry => insert entry.1 entry.2 map) map) =
      (find? key entries.reverse).or (find? key map) := by
  induction entries generalizing map with
  | nil => rfl
  | cons entry rest ih =>
      have inserted : Ascending (insert entry.1 entry.2 map) := ascending.alter _ _
      have append : find? key (rest.reverse ++ [entry]) =
          (find? key rest.reverse).or (find? key [entry]) := List.lookup_append
      rw [List.foldl_cons, ih inserted, find?_insert ascending, List.reverse_cons, append,
        Option.or_assoc]

/-- A key reads the value of its last entry. -/
theorem find?_ofEntries (entries : List (Text × α)) (key : Text) :
    find? key (ofEntries entries) = find? key entries.reverse := by
  rw [ofEntries, find?_foldl_insert entries List.Pairwise.nil]
  exact Option.or_none

end Keyed

end CatalogListing
