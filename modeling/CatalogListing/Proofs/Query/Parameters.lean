/-
# Proofs.Query.Parameters -- what a request has for a key

The filters of a request are looked up by key: a key that is not reserved has exactly
the values that were supplied for it, in the order they came (`find?_filters`), and the
filters stand in the order of their keys (`ascending_filters`).

Requests are compared by the values that they have for their keys (`AgreeBut`).  The
associations of a request are the names that were given in it (`mem_foldl_withName`).
-/
import CatalogListing.Proofs.Query.Keyed

namespace CatalogListing

set_option autoImplicit false

namespace Keyed

variable {α : Type}

theorem Ascending.erase {entries : Keyed α} (ascending : Ascending entries) (key : Text) :
    Ascending (Keyed.erase key entries) :=
  List.Pairwise.filter _ ascending

theorem erase_of_find?_eq_none {key : Text} {entries : Keyed α}
    (absent : find? key entries = none) : Keyed.erase key entries = entries := by
  rw [erase, List.filter_eq_self]
  intro entry member
  rw [find?, List.lookup_eq_none_iff] at absent
  have different := absent entry member
  simp only [bne_iff_ne, ne_eq]
  intro same
  simp [same] at different

theorem Ascending.nodup {entries : Keyed α} (ascending : Ascending entries) : entries.Nodup := by
  refine List.Pairwise.imp (fun {entry later} less same => ?_) ascending
  rw [same, Text.precedes_irrefl] at less
  cases less

/-- Ascending entries are known by which they are. -/
theorem Ascending.ext {entries others : Keyed α} (ascending : Ascending entries)
    (ascending' : Ascending others) (same : ∀ entry, entry ∈ entries ↔ entry ∈ others) :
    entries = others := by
  have perm := (List.perm_ext_iff_of_nodup ascending.nodup ascending'.nodup).2 same
  refine List.Perm.eq_of_pairwise (fun entry other _ _ less greater => ?_) ascending ascending' perm
  have both := Text.precedes_trans less greater
  rw [Text.precedes_irrefl] at both
  cases both

/-- Ascending entries are known by what their keys read. -/
theorem ext_find? {entries others : Keyed α} (ascending : Ascending entries)
    (ascending' : Ascending others) (same : ∀ key, find? key entries = find? key others) :
    entries = others := by
  refine ascending.ext ascending' ?_
  rintro ⟨key, value⟩
  rw [mem_iff_find? ascending, mem_iff_find? ascending', same]

/-- Entries that read alike through a partial function have the same images, in the same
order. -/
theorem filterMap_eq_of_find? {β : Type} {entries others : Keyed α}
    (ascending : Ascending entries) (ascending' : Ascending others) (f : Text → α → Option β)
    (same : ∀ key, (find? key entries).bind (f key) = (find? key others).bind (f key)) :
    (entries.filterMap fun entry => f entry.1 entry.2) =
      others.filterMap fun entry => f entry.1 entry.2 := by
  -- Images that keep their keys are ascending again.
  let keyed (entry : Text × α) : Option (Text × β) :=
    (f entry.1 entry.2).map fun image => (entry.1, image)
  have images (list : Keyed α) : (list.filterMap fun entry => f entry.1 entry.2) =
      (list.filterMap keyed).map (·.2) := by
    simp [keyed, List.map_filterMap, Function.comp_def]
  have keeps {list : Keyed α} (ascending : Ascending list) :
      Ascending (list.filterMap keyed) := by
    refine List.Pairwise.filterMap keyed (fun entry later less image isImage other isOther => ?_)
      ascending
    obtain ⟨-, -, rfl⟩ := Option.map_eq_some_iff.1 isImage
    obtain ⟨-, -, rfl⟩ := Option.map_eq_some_iff.1 isOther
    exact less
  have mem_keyed {list : Keyed α} (ascending : Ascending list) (key : Text) (image : β) :
      (key, image) ∈ list.filterMap keyed ↔ (find? key list).bind (f key) = some image := by
    rw [List.mem_filterMap, Option.bind_eq_some_iff]
    constructor
    · rintro ⟨⟨k, value⟩, member, isImage⟩
      obtain ⟨other, found, pair⟩ := Option.map_eq_some_iff.1 isImage
      obtain ⟨rfl, rfl⟩ := Prod.mk.inj pair
      exact ⟨value, (mem_iff_find? ascending).1 member, found⟩
    · rintro ⟨value, reads, found⟩
      exact ⟨(key, value), (mem_iff_find? ascending).2 reads, by simp [keyed, found]⟩
  rw [images, images]
  congr 1
  refine (keeps ascending).ext (keeps ascending') ?_
  rintro ⟨key, image⟩
  rw [mem_keyed ascending, mem_keyed ascending', same]

end Keyed

namespace Parameters

theorem valuesOf_cons (key : Text) (pair : Pair) (pairs : List Pair) :
    valuesOf key (pair :: pairs) =
      if pair.1 = key then pair.2 :: valuesOf key pairs else valuesOf key pairs := by
  by_cases same : pair.1 = key <;> simp [valuesOf, same]

theorem valuesOf_append (key : Text) (pairs others : List Pair) :
    valuesOf key (pairs ++ others) = valuesOf key pairs ++ valuesOf key others :=
  List.filterMap_append

theorem mem_valuesOf {key value : Text} {pairs : List Pair} :
    value ∈ valuesOf key pairs ↔ (key, value) ∈ pairs := by
  simp only [valuesOf, List.mem_filterMap]
  constructor
  · rintro ⟨pair, member, found⟩
    split at found
    · rename_i same
      obtain rfl := Option.some.inj found
      subst same
      exact member
    · cases found
  · intro member
    exact ⟨(key, value), member, if_pos rfl⟩

/-! ## Filters, one pair at a time -/

theorem ascending_foldl_withFilter (pairs : List Pair) {filters : Keyed (List Text)}
    (ascending : filters.Ascending) : Keyed.Ascending (pairs.foldl withFilter filters) := by
  induction pairs generalizing filters with
  | nil => exact ascending
  | cons pair rest ih => exact ih (ascending.alter _ _)

/-- Values behind those a key has; no entry for a key without values. -/
def extended (before : Option (List Text)) (values : List Text) : Option (List Text) :=
  if values = [] then before else some (before.getD [] ++ values)

theorem find?_foldl_withFilter (pairs : List Pair) {filters : Keyed (List Text)}
    (ascending : filters.Ascending) (key : Text) :
    Keyed.find? key (pairs.foldl withFilter filters) =
      extended (Keyed.find? key filters) (valuesOf key pairs) := by
  induction pairs generalizing filters with
  | nil => rfl
  | cons pair rest ih =>
      have first : Keyed.find? key (withFilter filters pair) =
          if key = pair.1 then some ((Keyed.find? pair.1 filters).getD [] ++ [pair.2])
          else Keyed.find? key filters := Keyed.find?_alter ascending _ _ _
      have after : (withFilter filters pair).Ascending := ascending.alter _ _
      rw [List.foldl_cons, ih after, first, valuesOf_cons]
      by_cases same : pair.1 = key
      · subst same
        by_cases last : valuesOf pair.1 rest = [] <;> simp [extended, last]
      · rw [if_neg (Ne.symm same), if_neg same]

/-! ## The filters of a request -/

theorem ascending_filters (pairs : List Pair) (bounds : PageBounds) :
    Keyed.Ascending (ofPairs pairs bounds).filters :=
  ascending_foldl_withFilter _ List.Pairwise.nil

theorem valuesOf_filter_reserved {key : Text} (free : key ∉ reservedKeys) (pairs : List Pair) :
    valuesOf key (pairs.filter fun pair => !reservedKeys.contains pair.1) =
      valuesOf key pairs := by
  induction pairs with
  | nil => rfl
  | cons pair rest ih =>
      by_cases reserved : pair.1 ∈ reservedKeys
      · have other : pair.1 ≠ key := fun same => free (same ▸ reserved)
        rw [List.filter_cons_of_neg (by simpa using reserved), ih, valuesOf_cons, if_neg other]
      · rw [List.filter_cons_of_pos (by simpa using reserved), valuesOf_cons, ih, valuesOf_cons]

/-- A reserved key is no filter; every other one has the values supplied for it. -/
theorem find?_filters (pairs : List Pair) (bounds : PageBounds) (key : Text) :
    Keyed.find? key (ofPairs pairs bounds).filters =
      if key ∈ reservedKeys ∨ valuesOf key pairs = [] then none
      else some (valuesOf key pairs) := by
  have found : Keyed.find? key ((pairs.filter fun pair => !reservedKeys.contains pair.1).foldl
      withFilter []) = extended none _ := find?_foldl_withFilter _ List.Pairwise.nil key
  rw [ofPairs, found]
  by_cases reserved : key ∈ reservedKeys
  · have nothing : valuesOf key (pairs.filter fun pair => !reservedKeys.contains pair.1) = [] := by
      rw [List.eq_nil_iff_forall_not_mem]
      intro value member
      have kept := (List.mem_filter.1 (mem_valuesOf.1 member)).2
      simp [reserved] at kept
    rw [nothing, if_pos (Or.inl reserved)]
    rfl
  · rw [valuesOf_filter_reserved reserved]
    by_cases nothing : valuesOf key pairs = []
    · rw [nothing, if_pos (Or.inr rfl)]
      rfl
    · rw [if_neg (not_or.2 ⟨reserved, nothing⟩)]
      simp [extended, nothing]

/-- The requests have the same values for every key but some. -/
def AgreeBut (keys : List Text) (pairs others : List Pair) : Prop :=
  ∀ key, key ∉ keys → valuesOf key others = valuesOf key pairs

theorem AgreeBut.of_mem {key : Text} {keys : List Text} {pairs others : List Pair}
    (agree : AgreeBut [key] pairs others) (member : key ∈ keys) : AgreeBut keys pairs others :=
  fun other apart => agree other fun isKey => apart (List.mem_singleton.1 isKey ▸ member)

theorem agree_without (before : List Pair) (pair : Pair) (after : List Pair) :
    AgreeBut [pair.1] (before ++ pair :: after) (before ++ after) := by
  intro key other
  rw [valuesOf_append, valuesOf_append, valuesOf_cons,
    if_neg fun same => other (List.mem_singleton.2 same.symm)]

/-- Requests that agree on all keys but the reserved ones have the same filters. -/
theorem filters_of_agree {pairs others : List Pair} (agree : AgreeBut reservedKeys pairs others)
    (bounds : PageBounds) : (ofPairs others bounds).filters = (ofPairs pairs bounds).filters := by
  refine Keyed.ext_find? (ascending_filters _ _) (ascending_filters _ _) fun key => ?_
  rw [find?_filters, find?_filters]
  by_cases reserved : key ∈ reservedKeys
  · rw [if_pos (Or.inl reserved), if_pos (Or.inl reserved)]
  · rw [agree key reserved]

/-! ## The associations of a request -/

/-- A name as it is looked up. -/
def lookedUp (name : Text) : Text :=
  Text.capitalize (Text.trim name)

theorem withName_eq (names : List Text) (name : Text) :
    withName names name =
      if lookedUp name = [] ∨ lookedUp name ∈ names then names else names ++ [lookedUp name] := by
  unfold withName
  by_cases passed : lookedUp name = [] ∨ lookedUp name ∈ names
  · rw [if_pos passed]
    exact if_pos (by simpa [lookedUp] using passed)
  · rw [if_neg passed]
    exact if_neg (by simpa [lookedUp] using passed)

/-- The names to attach are those that were there and those that were given. -/
theorem mem_foldl_withName {given names : List Text} {name : Text} :
    name ∈ given.foldl withName names ↔
      name ∈ names ∨ name ≠ [] ∧ ∃ one ∈ given, lookedUp one = name := by
  induction given generalizing names with
  | nil => simp
  | cons first rest ih =>
      rw [List.foldl_cons, ih, withName_eq]
      split
      · rename_i passed
        constructor
        · rintro (among | ⟨some_, one, member, rfl⟩)
          · exact Or.inl among
          · exact Or.inr ⟨some_, one, List.mem_cons_of_mem _ member, rfl⟩
        · rintro (among | ⟨some_, one, member, rfl⟩)
          · exact Or.inl among
          · rcases List.mem_cons.1 member with rfl | later
            · exact Or.inl (passed.resolve_left some_)
            · exact Or.inr ⟨some_, one, later, rfl⟩
      · rename_i new
        rw [List.mem_append, List.mem_singleton]
        constructor
        · rintro ((among | rfl) | ⟨some_, one, member, rfl⟩)
          · exact Or.inl among
          · exact Or.inr ⟨fun none_ => new (Or.inl none_), first, List.mem_cons_self, rfl⟩
          · exact Or.inr ⟨some_, one, List.mem_cons_of_mem _ member, rfl⟩
        · rintro (among | ⟨some_, one, member, rfl⟩)
          · exact Or.inl (Or.inl among)
          · rcases List.mem_cons.1 member with rfl | later
            · exact Or.inl (Or.inr rfl)
            · exact Or.inr ⟨some_, one, later, rfl⟩

end Parameters

end CatalogListing
