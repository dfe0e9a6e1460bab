/-
# Proofs.Store.Postings -- an index that follows its rows

An index follows rows when it holds the postings of their texts, each once, and no
others (`Follows`); in which order it holds them does not matter to any search.

* `Follows.add` and `Follows.remove`: it goes on following when it is told of a row that
  comes or goes, provided that keys are unique;
* `Follows.mem_iff`: what it holds is known from the texts.
-/
import CatalogListing.Store.Search

namespace CatalogListing.Search

set_option autoImplicit false

/-! ## Postings of one row -/

theorem mem_postings {row : Int} {text : Text} {posting : Posting} :
    posting ∈ postings row text ↔
      posting.row = row ∧ (words text)[posting.place]? = some posting.word := by
  obtain ⟨key, word, place⟩ := posting
  simp only [postings, List.mem_map, List.mem_zipIdx_iff_getElem?, Posting.mk.injEq]
  constructor
  · rintro ⟨⟨found, position⟩, here, rfl, rfl, rfl⟩
    exact ⟨rfl, here⟩
  · rintro ⟨rfl, here⟩
    exact ⟨(word, place), here, rfl, rfl, rfl⟩

/-- Removing the words of a row leaves the postings of other rows. -/
theorem remove_of_absent {index : Index} {row : Int} (absent : ∀ posting ∈ index, posting.row ≠ row)
    (text : Text) : remove index row text = index := by
  rw [remove, List.filter_eq_self]
  intro posting member
  simp [absent posting member]

/-- All postings of a text go with its words. -/
theorem remove_postings_self (row : Int) (text : Text) :
    remove (postings row text) row text = [] := by
  rw [remove, List.filter_eq_nil_iff]
  intro posting member
  obtain ⟨same, here⟩ := mem_postings.1 member
  have among : posting.word ∈ words text := List.mem_of_getElem? here
  simp [same, among]

theorem remove_postings_other {row other : Int} (different : other ≠ row) (text otherText : Text) :
    remove (postings other otherText) row text = postings other otherText := by
  refine remove_of_absent ?_ text
  intro posting member
  rw [(mem_postings.1 member).1]
  exact different

theorem remove_append (index later : Index) (row : Int) (text : Text) :
    remove (index ++ later) row text = remove index row text ++ remove later row text :=
  List.filter_append _ _

/-! ## Rows with unique keys -/

/-- The index without the words of rows, one row after the other. -/
def removeAll (gone : List (Int × Text)) (index : Index) : Index :=
  gone.foldl (fun index row => remove index row.1 row.2) index

/-- The rows that are left without those of some keys. -/
def leftOf (keys : List Int) (rows : List (Int × Text)) : List (Int × Text) :=
  rows.filter fun row => !keys.contains row.1

theorem leftOf_nil (rows : List (Int × Text)) : leftOf [] rows = rows := by
  simp [leftOf]

theorem leftOf_cons (key : Int) (keys : List Int) (rows : List (Int × Text)) :
    leftOf (key :: keys) rows = leftOf keys (leftOf [key] rows) := by
  simp only [leftOf, List.filter_filter]
  refine List.filter_congr fun row _ => ?_
  by_cases first : row.1 = key <;> simp [first]

theorem build_cons (row : Int × Text) (rows : List (Int × Text)) :
    build (row :: rows) = postings row.1 row.2 ++ build rows := rfl

theorem mem_build {rows : List (Int × Text)} {posting : Posting} :
    posting ∈ build rows ↔
      ∃ text, (posting.row, text) ∈ rows ∧ (words text)[posting.place]? = some posting.word := by
  simp only [build, List.mem_flatMap]
  constructor
  · rintro ⟨⟨key, text⟩, member, held⟩
    obtain ⟨rfl, here⟩ := mem_postings.1 held
    exact ⟨text, member, here⟩
  · rintro ⟨text, member, here⟩
    exact ⟨_, member, mem_postings.2 ⟨rfl, here⟩⟩

/-- With unique keys, removing the words of one row leaves the postings of the others. -/
theorem remove_build {rows : List (Int × Text)} (unique : (rows.map (·.1)).Nodup) {row : Int}
    {text : Text} (member : (row, text) ∈ rows) :
    remove (build rows) row text = build (leftOf [row] rows) := by
  induction rows with
  | nil => cases member
  | cons first rest ih =>
      obtain ⟨fresh, later⟩ := List.nodup_cons.1 unique
      rw [build_cons, remove_append]
      rcases List.mem_cons.1 member with same | inRest
      · subst same
        have others : ∀ posting ∈ build rest, posting.row ≠ row := by
          intro posting held same
          obtain ⟨text, inRest, -⟩ := mem_build.1 held
          exact fresh (List.mem_map.2 ⟨_, inRest, same⟩)
        have left : leftOf [row] rest = rest := by
          rw [leftOf, List.filter_eq_self]
          intro other inRest
          have different : other.1 ≠ row := fun same =>
            fresh (List.mem_map.2 ⟨other, inRest, same⟩)
          simp [different]
        have dropped : leftOf [row] ((row, text) :: rest) = leftOf [row] rest := by
          simp [leftOf]
        rw [remove_postings_self, remove_of_absent others, dropped, left]
        rfl
      · have different : first.1 ≠ row := fun same =>
          fresh (List.mem_map.2 ⟨_, inRest, same.symm⟩)
        have kept : leftOf [row] (first :: rest) = first :: leftOf [row] rest := by
          simp [leftOf, different]
        rw [remove_postings_other different, ih later inRest, kept, build_cons]

/-! ## Following -/

/-- The index holds the postings of the rows, each once, and no others. -/
def Follows (index : Index) (rows : List (Int × Text)) : Prop :=
  index.Perm (build rows)

namespace Follows

variable {index : Index} {rows others : List (Int × Text)}

theorem of_perm (follows : Follows index rows) (same : rows.Perm others) :
    Follows index others :=
  List.Perm.trans follows (same.flatMap_right _)

theorem mem_iff (follows : Follows index rows) {posting : Posting} :
    posting ∈ index ↔
      ∃ text, (posting.row, text) ∈ rows ∧ (words text)[posting.place]? = some posting.word := by
  rw [List.Perm.mem_iff follows, mem_build]

/-- Told of a row with a key of its own, the index follows the rows with this one. -/
theorem add (follows : Follows index rows) {row : Int} (fresh : ∀ other ∈ rows, other.1 ≠ row)
    (text : Text) : Follows (Search.add index row text) ((row, text) :: rows) := by
  have absent : ∀ posting ∈ index, posting.row ≠ row := by
    intro posting held
    obtain ⟨text, member, -⟩ := follows.mem_iff.1 held
    exact fresh _ member
  rw [Search.add, remove_of_absent absent]
  exact List.perm_append_comm.trans (List.Perm.append_left _ follows)

/-- Told that a row is gone, the index follows the other rows. -/
theorem remove (follows : Follows index rows) (unique : (rows.map (·.1)).Nodup) {row : Int}
    {text : Text} (member : (row, text) ∈ rows) :
    Follows (Search.remove index row text) (leftOf [row] rows) := by
  rw [Follows, ← remove_build unique member]
  exact List.Perm.filter _ follows

/-- Told that rows are gone, one after the other, the index follows those that are left. -/
theorem removeAll (follows : Follows index rows) (unique : (rows.map (·.1)).Nodup)
    {gone : List (Int × Text)} (apart : (gone.map (·.1)).Nodup) (among : ∀ row ∈ gone, row ∈ rows) :
    Follows (Search.removeAll gone index)
      (leftOf (gone.map (·.1)) rows) := by
  induction gone generalizing index rows with
  | nil =>
      rw [List.map_nil, leftOf_nil]
      exact follows
  | cons first rest ih =>
      obtain ⟨fresh, later⟩ := List.nodup_cons.1 apart
      have still : ∀ row ∈ rest, row ∈ leftOf [first.1] rows := by
        intro row member
        have different : row.1 ≠ first.1 := fun same =>
          fresh (List.mem_map.2 ⟨row, member, same⟩)
        exact List.mem_filter.2 ⟨among row (List.mem_cons_of_mem _ member), by simp [different]⟩
      have uniqueLeft : ((leftOf [first.1] rows).map (·.1)).Nodup :=
        unique.sublist (List.filter_sublist.map _)
      rw [List.map_cons, leftOf_cons, Search.removeAll, List.foldl_cons]
      exact ih (follows.remove unique (among first List.mem_cons_self)) uniqueLeft later still

end Follows

end CatalogListing.Search
