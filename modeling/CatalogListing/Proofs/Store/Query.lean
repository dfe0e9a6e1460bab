/-
# Proofs.Store.Query -- full-text queries are read as the terms they were made of

The query for a text is its terms, each between quotes, so whatever characters a term
has, it is read as one string (`strings_query`).  The one exception is a NUL: the query
ends there, inside the quotes (`phrases_of_nul`).
-/
import CatalogListing.Store.Search

namespace CatalogListing

set_option autoImplicit false

/-! ## Characters of pieces -/

theorem Text.mem_pieces_iff (separates : Char → Bool) (text : Text) (c : Char) :
    (∃ piece ∈ Text.pieces separates text, c ∈ piece) ↔ c ∈ text ∧ separates c = false := by
  induction text with
  | nil => simp
  | cons d rest ih =>
      rw [Text.pieces, List.foldr_cons, ← Text.pieces]
      by_cases cut : separates d = true
      · rw [if_pos cut]
        constructor
        · rintro ⟨piece, member, held⟩
          rcases List.mem_cons.1 member with rfl | later
          · cases held
          · have inRest := ih.1 ⟨piece, later, held⟩
            exact ⟨List.mem_cons_of_mem _ inRest.1, inRest.2⟩
        · rintro ⟨member, kept⟩
          rcases List.mem_cons.1 member with rfl | later
          · rw [cut] at kept
            cases kept
          · obtain ⟨piece, among, held⟩ := ih.2 ⟨later, kept⟩
            exact ⟨piece, List.mem_cons_of_mem _ among, held⟩
      · rw [if_neg cut]
        have notCut : separates d = false := by simpa using cut
        cases whole : Text.pieces separates rest with
        | nil => exact absurd whole (Text.pieces_ne_nil separates rest)
        | cons first others =>
            rw [whole] at ih
            simp only [List.mem_cons, exists_eq_or_imp] at ih ⊢
            constructor
            · rintro ((rfl | inFirst) | later)
              · exact ⟨Or.inl rfl, notCut⟩
              · have inRest := ih.1 (Or.inl inFirst)
                exact ⟨Or.inr inRest.1, inRest.2⟩
              · have inRest := ih.1 (Or.inr later)
                exact ⟨Or.inr inRest.1, inRest.2⟩
            · rintro ⟨rfl | later, kept⟩
              · exact Or.inl (Or.inl rfl)
              · rcases ih.2 ⟨later, kept⟩ with inFirst | inOthers
                · exact Or.inl (Or.inr inFirst)
                · exact Or.inr inOthers

theorem Text.mem_words_iff (separates : Char → Bool) (text : Text) (c : Char) :
    (∃ word ∈ Text.words separates text, c ∈ word) ↔ c ∈ text ∧ separates c = false := by
  rw [← Text.mem_pieces_iff]
  constructor
  · rintro ⟨word, member, held⟩
    exact ⟨word, (List.mem_filter.1 member).1, held⟩
  · rintro ⟨piece, member, held⟩
    refine ⟨piece, List.mem_filter.2 ⟨member, ?_⟩, held⟩
    cases piece with
    | nil => cases held
    | cons d rest => rfl

namespace Search

open FullText (quotedTerm terms)

/-! ## One string -/

/-- A term as it stands between quotes. -/
def doubled (term : Text) : Text :=
  term.flatMap fun c => if c = '"' then ['"', '"'] else [c]

theorem quotedTerm_eq (term : Text) : quotedTerm term = '"' :: (doubled term ++ ['"']) := rfl

theorem foldl_step_doubled (term : Text) (strings : List Text) (present : Text) :
    (doubled term).foldl Reading.step (.inside strings present) =
      .inside strings (term.reverse ++ present) := by
  induction term generalizing present with
  | nil => rfl
  | cons c rest ih =>
      have first : (if c = '"' then ['"', '"'] else [c]).foldl Reading.step
          (.inside strings present) = .inside strings (c :: present) := by
        by_cases quote : c = '"' <;> simp [quote, Reading.step]
      rw [doubled, List.flatMap_cons, List.foldl_append, first]
      have later := ih (c :: present)
      rw [doubled] at later
      rw [later, List.reverse_cons, List.append_assoc]
      rfl

theorem foldl_step_quotedTerm (term : Text) (strings : List Text) :
    (quotedTerm term).foldl Reading.step (.between strings) = .quoteInside strings term.reverse := by
  have opened : Reading.step (.between strings) '"' = .inside strings [] := rfl
  have closed : Reading.step (.inside strings term.reverse) '"' =
      .quoteInside strings term.reverse := rfl
  rw [quotedTerm_eq, List.foldl_cons, opened, List.foldl_append, foldl_step_doubled,
    List.append_nil, List.foldl_cons, List.foldl_nil, closed]

/-! ## Whole queries -/

/-- The query of terms. -/
def queryOf (terms : List Text) : Text :=
  List.intercalate [' '] (terms.map quotedTerm)

theorem queryOf_singleton (term : Text) : queryOf [term] = quotedTerm term := by
  rw [queryOf, List.map_singleton, List.intercalate_singleton]

theorem queryOf_cons (term : Text) {terms : List Text} (more : terms ≠ []) :
    queryOf (term :: terms) = quotedTerm term ++ ' ' :: queryOf terms := by
  cases terms with
  | nil => exact absurd rfl more
  | cons second rest =>
      rw [queryOf, List.map_cons, List.map_cons, List.intercalate_cons_cons, ← List.map_cons,
        ← queryOf, List.append_assoc]
      rfl

theorem step_quoteInside_blank (strings : List Text) (term : Text) :
    Reading.step (.quoteInside strings term.reverse) ' ' = .between (term :: strings) := by
  simp [Reading.step]

/-- Behind a query the last term is complete but for the blank that may follow. -/
theorem foldl_step_queryOf {terms : List Text} (some_ : terms ≠ []) (strings : List Text) :
    ∃ earlier last, terms = earlier ++ [last] ∧
      (queryOf terms).foldl Reading.step (.between strings) =
        .quoteInside (earlier.reverse ++ strings) last.reverse := by
  induction terms generalizing strings with
  | nil => exact absurd rfl some_
  | cons term rest ih =>
      by_cases more : rest = []
      · subst more
        refine ⟨[], term, rfl, ?_⟩
        rw [queryOf_singleton]
        exact foldl_step_quotedTerm term strings
      · obtain ⟨earlier, last, rfl, read⟩ := ih more (term :: strings)
        refine ⟨term :: earlier, last, rfl, ?_⟩
        rw [queryOf_cons term more, List.foldl_append, foldl_step_quotedTerm, List.foldl_cons,
          step_quoteInside_blank, read]
        simp

/-- **A query is read as the terms it was made of**, whatever characters they have. -/
theorem strings_query (terms : List Text) : strings (queryOf terms) = .ok terms := by
  by_cases none_ : terms = []
  · subst none_
    rfl
  · obtain ⟨earlier, last, rfl, read⟩ := foldl_step_queryOf none_ []
    rw [strings, read]
    simp

/-! ## NUL -/

/-- A query goes on behind the character. -/
def goesOn (c : Char) : Bool :=
  c.toNat != 0

theorem goesOn_of_notMem {text : Text} (clean : '\x00' ∉ text) : ∀ c ∈ text, goesOn c = true := by
  intro c member
  unfold goesOn
  rw [bne_iff_ne]
  intro zero
  have nul : c = '\x00' := Char.toNat_inj.1 zero
  exact clean (nul ▸ member)

theorem takeWhile_doubled {term : Text} (nul : ∃ c ∈ term, goesOn c = false) (more : Text) :
    (doubled term ++ more).takeWhile goesOn = doubled (term.takeWhile goesOn) := by
  induction term with
  | nil =>
      obtain ⟨c, member, -⟩ := nul
      cases member
  | cons d rest ih =>
      by_cases kept : goesOn d = true
      · have later : ∃ c ∈ rest, goesOn c = false := by
          obtain ⟨c, member, ends⟩ := nul
          rcases List.mem_cons.1 member with rfl | inRest
          · rw [kept] at ends
            cases ends
          · exact ⟨c, inRest, ends⟩
        have first : ∀ c ∈ (if d = '"' then ['"', '"'] else [d]), goesOn c = true := by
          intro c member
          by_cases quote : d = '"'
          · simp only [if_pos quote, List.mem_cons, List.not_mem_nil, or_false, or_self] at member
            subst member
            decide
          · simp only [if_neg quote, List.mem_singleton] at member
            exact member ▸ kept
        rw [doubled, List.flatMap_cons, List.append_assoc, List.takeWhile_append_of_pos first,
          ← doubled, ih later, List.takeWhile_cons_of_pos kept, doubled, doubled,
          List.flatMap_cons]
      · have notQuote : d ≠ '"' := by
          rintro rfl
          exact kept rfl
        rw [List.takeWhile_cons_of_neg kept, doubled, List.flatMap_cons, if_neg notQuote,
          List.singleton_append, List.cons_append, List.takeWhile_cons_of_neg kept]
        rfl

theorem goesOn_quotedTerm {term : Text} (clean : ∀ c ∈ term, goesOn c = true) :
    ∀ c ∈ quotedTerm term, goesOn c = true := by
  intro c member
  simp only [quotedTerm, List.mem_cons, List.mem_append, List.mem_flatMap, List.not_mem_nil,
    or_false] at member
  rcases member with rfl | ⟨d, inTerm, here⟩ | rfl
  · rfl
  · by_cases quote : d = '"'
    · simp only [if_pos quote, List.mem_cons, List.not_mem_nil, or_false, or_self] at here
      subst here
      rfl
    · simp only [if_neg quote, List.mem_singleton] at here
      exact here ▸ clean d inTerm
  · rfl

theorem goesOn_queryOf {terms : List Text} (clean : ∀ term ∈ terms, ∀ c ∈ term, goesOn c = true) :
    ∀ c ∈ queryOf terms, goesOn c = true := by
  induction terms with
  | nil =>
      intro c member
      cases member
  | cons term rest ih =>
      have first := goesOn_quotedTerm (clean term List.mem_cons_self)
      by_cases more : rest = []
      · subst more
        rw [queryOf_singleton]
        exact first
      · have later := ih fun other member => clean other (List.mem_cons_of_mem _ member)
        intro c member
        rw [queryOf_cons term more] at member
        rcases List.mem_append.1 member with inFirst | behind
        · exact first c inFirst
        · rcases List.mem_cons.1 behind with rfl | inRest
          · rfl
          · exact later c inRest

theorem exists_queryOf_cons (term : Text) (rest : List Text) :
    ∃ more, queryOf (term :: rest) = '"' :: (doubled term ++ more) := by
  by_cases more : rest = []
  · subst more
    exact ⟨['"'], by rw [queryOf_singleton, quotedTerm_eq]⟩
  · refine ⟨'"' :: ' ' :: queryOf rest, ?_⟩
    rw [queryOf_cons term more, quotedTerm_eq, List.cons_append, List.append_assoc]
    rfl

/-- A query ends at a NUL, inside of quotes. -/
theorem foldl_step_of_nul {terms : List Text} (nul : ∃ term ∈ terms, ∃ c ∈ term, goesOn c = false)
    (strings : List Text) :
    ∃ earlier present, ((queryOf terms).takeWhile goesOn).foldl Reading.step (.between strings) =
      .inside earlier present := by
  induction terms generalizing strings with
  | nil =>
      obtain ⟨term, member, -⟩ := nul
      cases member
  | cons term rest ih =>
      have opened : Reading.step (.between strings) '"' = .inside strings [] := rfl
      have quote : goesOn '"' = true := rfl
      by_cases here : ∃ c ∈ term, goesOn c = false
      · obtain ⟨more, text⟩ := exists_queryOf_cons term rest
        rw [text, List.takeWhile_cons_of_pos quote, takeWhile_doubled here, List.foldl_cons,
          opened, foldl_step_doubled]
        exact ⟨_, _, rfl⟩
      · have clean : ∀ c ∈ term, goesOn c = true := by
          intro c member
          cases ends : goesOn c with
          | true => rfl
          | false => exact absurd ⟨c, member, ends⟩ here
        have later : ∃ term ∈ rest, ∃ c ∈ term, goesOn c = false := by
          obtain ⟨other, member, ends⟩ := nul
          rcases List.mem_cons.1 member with rfl | inRest
          · exact absurd ends here
          · exact ⟨other, inRest, ends⟩
        have more : rest ≠ [] := by
          rintro rfl
          obtain ⟨other, member, -⟩ := later
          cases member
        have blank : goesOn ' ' = true := rfl
        rw [queryOf_cons term more, List.takeWhile_append_of_pos (goesOn_quotedTerm clean),
          List.takeWhile_cons_of_pos blank, List.foldl_append, foldl_step_quotedTerm,
          List.foldl_cons, step_quoteInside_blank]
        exact ih later _

/-- The phrases of terms: their words, for each that has any. -/
def phrasesOf (terms : List Text) : List (List Bytes) :=
  (terms.map words).filter fun phrase => !phrase.isEmpty

theorem phrases_of_clean {terms : List Text}
    (clean : ∀ term ∈ terms, ∀ c ∈ term, goesOn c = true) :
    phrases (queryOf terms) = .ok (phrasesOf terms) := by
  have whole : (queryOf terms ++ []).takeWhile goesOn = queryOf terms ++ [].takeWhile goesOn :=
    List.takeWhile_append_of_pos (goesOn_queryOf clean)
  rw [List.append_nil, List.takeWhile_nil, List.append_nil] at whole
  have whole' : ((queryOf terms).takeWhile fun c => c.toNat != 0) = queryOf terms := whole
  rw [phrases, whole', strings_query]
  rfl

theorem phrases_of_nul {terms : List Text}
    (nul : ∃ term ∈ terms, ∃ c ∈ term, goesOn c = false) :
    phrases (queryOf terms) = .error (.rejected 1 "unterminated string") := by
  obtain ⟨earlier, present, read⟩ := foldl_step_of_nul nul []
  have read' : ((queryOf terms).takeWhile fun c => c.toNat != 0).foldl Reading.step
      (.between []) = .inside earlier present := read
  rw [phrases, strings, read']
  rfl

end Search

/-! ## The query of a text -/

open FullText (terms)

/-- A text without NUL has terms without it. -/
theorem goesOn_terms {text : Text} (clean : ∀ c ∈ text, Search.goesOn c = true) :
    ∀ term ∈ terms text, ∀ c ∈ term, Search.goesOn c = true := by
  intro term member c held
  have among := (Text.mem_words_iff Text.isBlank text c).1 ⟨term, member, held⟩
  exact clean c among.1

/-- A NUL is no white space, so it is in a term. -/
theorem exists_term_of_nul {text : Text} (nul : ∃ c ∈ text, Search.goesOn c = false) :
    ∃ term ∈ terms text, ∃ c ∈ term, Search.goesOn c = false := by
  obtain ⟨c, member, ends⟩ := nul
  have notBlank : Text.isBlank c = false := by
    have zero : c.toNat = 0 := by simpa [Search.goesOn] using ends
    simp [Text.isBlank, zero]
  obtain ⟨term, among, held⟩ := (Text.mem_words_iff Text.isBlank text c).2 ⟨member, notBlank⟩
  exact ⟨term, among, c, held, ends⟩

/-- The query of a text is the query of its terms. -/
theorem query?_eq (text : Text) :
    FullText.query? text = if terms text = [] then none else some (Search.queryOf (terms text)) := by
  unfold FullText.query?
  cases terms text <;> rfl

end CatalogListing
