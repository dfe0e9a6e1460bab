/-
# Proofs.Store.TitleSearch -- which books a search of titles finds

With the index in sync, a search of titles for a text finds the books whose title has
the words of every term of the text, next to each other (`HasTerms`), because the
postings of a book are the words of its title (`finds_iff`).
-/
import CatalogListing.Proofs.Filter.Form
import CatalogListing.Proofs.Store.Query
import CatalogListing.Proofs.Store.Sync
import CatalogListing.Proofs.Select.Plan
import CatalogListing.Store.Fetch

namespace CatalogListing

set_option autoImplicit false

open FullText (terms)
open Search (words)

/-! ## Phrases -/

namespace Search

theorem cons_prefix_drop {text : List Bytes} {word : Bytes} {rest : List Bytes} {place : Nat} :
    word :: rest <+: text.drop place ↔
      text[place]? = some word ∧ rest <+: text.drop (place + 1) := by
  by_cases inside : place < text.length
  · rw [List.drop_eq_getElem_cons inside, List.cons_prefix_cons, List.getElem?_eq_getElem inside,
      Option.some.injEq, eq_comm]
  · rw [List.drop_eq_nil_of_le (by omega), List.getElem?_eq_none (by omega)]
    simp

/-- The index holds exactly the words of a text for a row. -/
def Holds (index : Index) (row : Int) (text : List Bytes) : Prop :=
  ∀ word place, (⟨row, word, place⟩ : Posting) ∈ index ↔ text[place]? = some word

variable {index : Index} {row : Int} {text : List Bytes}

theorem phraseAt_iff (holds : Holds index row text) (phrase : List Bytes) (place : Nat) :
    phraseAt index row place phrase = true ↔ phrase <+: text.drop place := by
  induction phrase generalizing place with
  | nil => simp [phraseAt]
  | cons word rest ih =>
      rw [phraseAt, Bool.and_eq_true, ih, cons_prefix_drop, List.contains_iff_mem, holds]

theorem holdsPhrase_iff (holds : Holds index row text) {phrase : List Bytes}
    (nonempty : phrase ≠ []) : holdsPhrase index row phrase = true ↔ phrase <:+: text := by
  rw [holdsPhrase, List.any_eq_true]
  constructor
  · rintro ⟨posting, -, found⟩
    rw [Bool.and_eq_true, phraseAt_iff holds] at found
    exact found.2.isInfix.trans (List.drop_suffix _ _).isInfix
  · rintro ⟨before, after, rfl⟩
    obtain ⟨word, rest, rfl⟩ := List.exists_cons_of_ne_nil nonempty
    refine ⟨⟨row, word, before.length⟩, (holds _ _).2 ?_, ?_⟩
    · rw [List.append_assoc, List.getElem?_append_right (Nat.le_refl _), Nat.sub_self]
      rfl
    · rw [Bool.and_eq_true, phraseAt_iff holds, List.append_assoc, List.drop_left]
      exact ⟨by simp, List.prefix_append _ _⟩

/-- The phrases of terms are found when there is one, and each stands in the text. -/
theorem finds_iff (holds : Holds index row text) (terms : List Text) :
    finds index (phrasesOf terms) row = true ↔
      (∃ term ∈ terms, words term ≠ []) ∧ ∀ term ∈ terms, words term <:+: text := by
  rw [finds, Bool.and_eq_true, List.all_eq_true]
  constructor
  · rintro ⟨some_, all⟩
    constructor
    · obtain ⟨phrase, member⟩ := List.exists_mem_of_ne_nil (phrasesOf terms) (by simpa using some_)
      obtain ⟨worded, nonempty⟩ := List.mem_filter.1 member
      obtain ⟨term, inTerms, rfl⟩ := List.mem_map.1 worded
      exact ⟨term, inTerms, by simpa using nonempty⟩
    · intro term member
      by_cases wordless : words term = []
      · rw [wordless]
        exact List.nil_infix
      · have phrase : words term ∈ phrasesOf terms :=
          List.mem_filter.2 ⟨List.mem_map_of_mem member, by simpa using wordless⟩
        exact (holdsPhrase_iff holds wordless).1 (all _ phrase)
  · rintro ⟨⟨term, member, worded⟩, all⟩
    constructor
    · have phrase : words term ∈ phrasesOf terms :=
        List.mem_filter.2 ⟨List.mem_map_of_mem member, by simpa using worded⟩
      simpa using List.ne_nil_of_mem phrase
    · intro phrase inPhrases
      obtain ⟨worded, nonempty⟩ := List.mem_filter.1 inPhrases
      obtain ⟨other, inTerms, rfl⟩ := List.mem_map.1 worded
      exact (holdsPhrase_iff holds (by simpa using nonempty)).2 (all other inTerms)

end Search

/-- In an index that is in sync, a book has the words of its title. -/
theorem holds_of_follows {table : Table} (unique : table.keys.Nodup) {index : Search.Index}
    (follows : Search.Follows index (Database.indexEntries table.rows)) {row : Row}
    (member : row ∈ table.rows) :
    Search.Holds index row.key (words (Database.indexedText row)) := by
  intro word place
  rw [follows.mem_iff]
  constructor
  · rintro ⟨text, entry, here⟩
    obtain ⟨other, among, same⟩ := List.mem_map.1 entry
    obtain ⟨sameKey, sameText⟩ := Prod.mk.inj same
    obtain rfl := List.inj_on_of_nodup_map unique among member sameKey
    rw [sameText]
    exact here
  · intro here
    exact ⟨_, List.mem_map_of_mem member, here⟩

/-! ## The value that asks for a search -/

/-- The value that asks for the full text of the words. -/
def searchValue (words : Text) : Text :=
  "m[" ++ words ++ "]m"

theorem classify_searchValue (words : Text) :
    Filter.classify (searchValue words) =
      if words = [] then none else some (.fullText words) :=
  Filter.classify_fullText words

/-! ## The request for a search -/

/-- The request for books by the words of their titles. -/
def titleRequest (words : Text) : List Pair :=
  [(Database.indexedColumn, searchValue words)]

/-- What it selects. -/
def titleSelection (bounds : PageBounds) (words : Text) : Selection :=
  .ofParameters Catalog.books (.ofPairs (titleRequest words) bounds)

/-- The test that finds the rows of a query. -/
def titleTest (query : Text) : RowTest :=
  .indexed Catalog.books.table Catalog.books.primaryKey Database.indexName Database.indexedColumn
    query

/-- The title has an index, so full text becomes a search unless there are no terms. -/
theorem ofResource_title (words : Text) :
    RowTest.ofResource Catalog.books Database.indexedColumn (.fullText words) =
      (FullText.query? words).map titleTest := by
  have column : Catalog.books.hasColumn Database.indexedColumn = true := by decide
  have index : Catalog.books.indexOf? Database.indexedColumn =
      some ⟨Database.indexName, [Database.indexedColumn]⟩ := by decide
  unfold RowTest.ofResource
  simp only [column, Bool.not_true, Bool.false_eq_true, if_false, index]
  cases FullText.query? words <;> rfl

theorem filters_titleRequest (bounds : PageBounds) (words : Text) :
    (Parameters.ofPairs (titleRequest words) bounds).filters =
      [(Database.indexedColumn, [searchValue words])] := rfl

/-- The one clause of the request, if the text has terms. -/
theorem clauses_titleSelection (bounds : PageBounds) (words : Text) :
    (titleSelection bounds words).clauses =
      (FullText.query? words).toList.map fun query => ⟨false, [[titleTest query]]⟩ := by
  have usable : (Filter.namesAlternatives Database.indexedColumn ||
      Catalog.books.filterable.contains Database.indexedColumn) = true := by decide
  have columns : Filter.columnsOf Database.indexedColumn = [Database.indexedColumn] := by decide
  have compiled : Filter.Clause.compile (RowTest.ofResource Catalog.books)
      Database.indexedColumn [searchValue words] =
      (FullText.query? words).map fun query => ⟨false, [[titleTest query]]⟩ := by
    unfold Filter.Clause.compile
    rw [columns, List.filterMap_cons, classify_searchValue]
    by_cases none_ : words = []
    · subst none_
      rfl
    · rw [if_neg none_]
      simp only [List.filterMap_nil, List.map_cons, List.map_nil, Filter.tests,
        List.filterMap_cons, ofResource_title]
      cases FullText.query? words <;> rfl
  unfold titleSelection Selection.ofParameters Filter.compileAll
  simp only [filters_titleRequest, List.filterMap_cons, List.filterMap_nil, usable, if_true,
    compiled]
  cases FullText.query? words <;> rfl

/-! ## What the search finds -/

/-- Every term of the text has its words next to each other in the title, and some term
has words at all, unless there are no terms. -/
def HasTerms (text title : Text) : Prop :=
  terms text = [] ∨ (∃ term ∈ terms text, words term ≠ []) ∧
    ∀ term ∈ terms text, words term <:+: words title

instance (text title : Text) : Decidable (HasTerms text title) :=
  inferInstanceAs (Decidable (_ ∨ _))

/-- **A search finds the books whose title has the terms.** -/
theorem wants_titleSelection {db : Database} {table : Table} {index : Search.Index}
    (present : db.index = some index) (unique : table.keys.Nodup)
    (follows : Search.Follows index (Database.indexEntries table.rows)) (bounds : PageBounds)
    {text : Text} (clean : ∀ c ∈ text, Search.goesOn c = true) {row : Row}
    (member : row ∈ table.rows) :
    (titleSelection bounds text).wants db table.schema row = true ↔
      HasTerms text (Database.indexedText row) := by
  have custom : (titleSelection bounds text).custom = [] := rfl
  unfold Selection.wants Selection.outcome HasTerms
  rw [clauses_titleSelection, custom, query?_eq]
  by_cases none_ : terms text = []
  · simp [none_, allOf]
  · have phrases := Search.phrases_of_clean (goesOn_terms clean)
    have finds : db.finds (Search.queryOf (terms text)) row.key =
        Search.finds index (Search.phrasesOf (terms text)) row.key := by
      simp [Database.finds, present, phrases]
    have holds := holds_of_follows unique follows member
    rw [if_neg none_]
    simp only [Option.toList_some, List.map_cons, List.map_nil, List.append_nil, none_, false_or]
    rw [← Search.finds_iff holds, ← finds]
    simp only [Filter.Clause.outcome, List.map_cons, List.map_nil, RowTest.outcome, titleTest]
    cases db.finds (Search.queryOf (terms text)) row.key <;> simp [allOf, anyOf]

end CatalogListing
