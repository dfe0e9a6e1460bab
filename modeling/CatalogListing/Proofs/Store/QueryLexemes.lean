/-
# Proofs.Store.QueryLexemes -- a full-text query has nothing but strings

The language of full-text queries has more than the quoted strings that a query is made of: bare
words, among them the operators `AND`, `OR`, `NOT` and `NEAR`, and marks such as `*`, `^`, `:`
and parentheses.  `lexemes?` reads a query in this language.  The reader of strings agrees with
it wherever it accepts (`lexemes?_of_strings`), so the query for a text has the strings of its
terms and no other lexeme, whatever the text (`query_has_only_terms`).

What the terms of a text are is told by `TermsOf`: runs without white space, in their order,
each as long as can be.
-/
import CatalogListing.Proofs.Store.Query
import CatalogListing.Proofs.Text.Cuts
import CatalogListing.Proofs.Text.Trim

namespace CatalogListing

set_option autoImplicit false

open Text (Blank isBlank)

/-! ## Terms -/

namespace FullText

/-- The runs without white space of a text, from its beginning to its end. -/
inductive TermsOf : Text → List Text → Prop
  | nil : TermsOf [] []
  | blank {c : Char} {rest : Text} {terms : List Text} (white : isBlank c = true)
      (later : TermsOf rest terms) : TermsOf (c :: rest) terms
  | term {term rest : Text} {terms : List Text} (some_ : term ≠ [])
      (solid : ∀ c ∈ term, isBlank c = false) (ends : ∀ c ∈ rest.head?, isBlank c = true)
      (later : TermsOf rest terms) : TermsOf (term ++ rest) (term :: terms)

theorem terms_blank {c : Char} (white : isBlank c = true) (rest : Text) :
    terms (c :: rest) = terms rest :=
  Text.words_append_cons white [] rest

theorem terms_of_solid {term : Text} (some_ : term ≠ []) (solid : ∀ c ∈ term, isBlank c = false) :
    terms term = [term] := by
  rw [terms, Text.words, Text.pieces_of_forall solid, List.filter_cons_of_pos]
  · rfl
  · rwa [Bool.not_eq_true', List.isEmpty_eq_false_iff]

theorem terms_term {term rest : Text} (some_ : term ≠ []) (solid : ∀ c ∈ term, isBlank c = false)
    (ends : ∀ c ∈ rest.head?, isBlank c = true) : terms (term ++ rest) = term :: terms rest := by
  cases rest with
  | nil =>
      rw [List.append_nil, terms_of_solid some_ solid]
      rfl
  | cons c more =>
      have white : isBlank c = true := ends c rfl
      rw [terms_blank white, terms, Text.words_append_cons white, ← terms,
        terms_of_solid some_ solid]
      rfl

theorem TermsOf.eq_terms {text : Text} {found : List Text} (runs : TermsOf text found) :
    found = terms text := by
  induction runs with
  | nil => rfl
  | blank white _ ih => rw [terms_blank white, ih]
  | term some_ solid ends _ ih => rw [terms_term some_ solid ends, ih]

theorem exists_termsOf (text : Text) : ∃ found, TermsOf text found := by
  induction text with
  | nil => exact ⟨[], .nil⟩
  | cons c rest ih =>
      obtain ⟨found, runs⟩ := ih
      cases white : isBlank c with
      | true => exact ⟨found, .blank white runs⟩
      | false =>
          have alone : ∀ d ∈ ([c] : Text), isBlank d = false := List.forall_mem_singleton.2 white
          -- The character begins a term of its own, or goes in front of the one that follows.
          cases runs with
          | nil => exact ⟨[[c]], @TermsOf.term [c] _ _ (List.cons_ne_nil _ _) alone nofun .nil⟩
          | blank ends later =>
              refine ⟨_, @TermsOf.term [c] _ _ (List.cons_ne_nil _ _) alone ?_ (.blank ends later)⟩
              rintro d ⟨⟩
              exact ends
          | term some_ solid ends later =>
              exact ⟨_, .term (List.cons_ne_nil c _) (List.forall_mem_cons.2 ⟨white, solid⟩) ends
                later⟩

/-- **The terms of a text are its runs without white space.** -/
theorem termsOf_iff {text : Text} {found : List Text} : TermsOf text found ↔ found = terms text := by
  refine ⟨TermsOf.eq_terms, ?_⟩
  rintro rfl
  obtain ⟨found, runs⟩ := exists_termsOf text
  exact runs.eq_terms ▸ runs

/-- A text has no term exactly if it is white space. -/
theorem terms_eq_nil_iff {text : Text} : terms text = [] ↔ Blank text := by
  constructor
  · intro none_ c member
    by_contra solid
    obtain ⟨term, among, -⟩ :=
      (Text.mem_words_iff isBlank text c).2 ⟨member, Bool.eq_false_iff.2 solid⟩
    change term ∈ terms text at among
    rw [none_] at among
    exact List.not_mem_nil among
  · intro blank
    induction text with
    | nil => rfl
    | cons c rest ih =>
        obtain ⟨white, later⟩ := List.forall_mem_cons.1 blank
        rw [terms_blank white, ih later]

end FullText

/-! ## Lexemes -/

namespace Search

/-- A part of a query: a string, a bare word such as an operator, or a mark. -/
inductive Lexeme where
  | string (content : Text)
  | word (content : Text)
  | mark (c : Char)
  deriving DecidableEq, Repr

/-- The characters between lexemes that are none. -/
def isGap (c : Char) : Bool :=
  c == ' ' || c == '\t' || c == '\n' || c == '\r'

/-- The characters that are lexemes on their own. -/
def isMark (c : Char) : Bool :=
  ['(', ')', '\x7b', '\x7d', ':', ',', '+', '*', '-', '^'].contains c

/-- The characters of bare words. -/
def isBare (c : Char) : Bool :=
  c.isAlphanum || c == '_' || c.toNat == 26 || 128 ≤ c.toNat

/-- The lexemes of a query read character by character, newest first. -/
inductive Scan where
  | between (lexemes : List Lexeme)
  | word (lexemes : List Lexeme) (present : Text)
  | inside (lexemes : List Lexeme) (present : Text)
  | quoteInside (lexemes : List Lexeme) (present : Text)
  | wrong

namespace Scan

/-- A character outside of strings and words. -/
def begin (lexemes : List Lexeme) (c : Char) : Scan :=
  if c = '"' then .inside lexemes []
  else if isGap c then .between lexemes
  else if isMark c then .between (.mark c :: lexemes)
  else if isBare c then .word lexemes [c]
  else .wrong

/-- One more character of a query. -/
def step : Scan → Char → Scan
  | .between lexemes, c => begin lexemes c
  | .word lexemes present, c =>
      if isBare c then .word lexemes (c :: present)
      else begin (.word present.reverse :: lexemes) c
  | .inside lexemes present, c =>
      if c = '"' then .quoteInside lexemes present else .inside lexemes (c :: present)
  | .quoteInside lexemes present, c =>
      if c = '"' then .inside lexemes (c :: present)
      else begin (.string present.reverse :: lexemes) c
  | .wrong, _ => .wrong

/-- The lexemes when the query ends, which it does not inside a string. -/
def finish : Scan → Option (List Lexeme)
  | .between lexemes => some lexemes.reverse
  | .word lexemes present => some (.word present.reverse :: lexemes).reverse
  | .quoteInside lexemes present => some (.string present.reverse :: lexemes).reverse
  | .inside _ _ => none
  | .wrong => none

end Scan

/-- The lexemes of a query in their order. -/
def lexemes? (query : Text) : Option (List Lexeme) :=
  (query.foldl Scan.step (.between [])).finish

/-- An operator outside of quotes is a lexeme of its own. -/
example : lexemes? "\"a\" OR b*" =
    some [.string "a", .word "OR", .word "b", .mark '*'] := by decide +kernel

/-- The state of the larger language in which a reading of strings is. -/
def Reading.scan : Reading → Scan
  | .between strings => .between (strings.map .string)
  | .inside strings present => .inside (strings.map .string) present
  | .quoteInside strings present => .quoteInside (strings.map .string) present
  | .wrong => .wrong

theorem foldl_step_wrong (query : Text) : query.foldl Reading.step .wrong = .wrong := by
  induction query with
  | nil => rfl
  | cons c rest ih => exact ih

theorem scan_step (reading : Reading) (c : Char) (right : reading.step c ≠ .wrong) :
    reading.scan.step c = (reading.step c).scan := by
  cases reading with
  | between strings =>
      by_cases quote : c = '"'
      · simp [Reading.step, Reading.scan, Scan.step, Scan.begin, quote]
      · by_cases blank : c = ' '
        · subst blank
          rfl
        · exact absurd (by simp [Reading.step, quote, blank]) right
  | inside strings present =>
      by_cases quote : c = '"' <;> simp [Reading.step, Reading.scan, Scan.step, quote]
  | quoteInside strings present =>
      by_cases quote : c = '"'
      · simp [Reading.step, Reading.scan, Scan.step, quote]
      · by_cases blank : c = ' '
        · subst blank
          rfl
        · exact absurd (by simp [Reading.step, quote, blank]) right
  | wrong => exact absurd rfl right

/-- As long as the reader of strings finds nothing wrong, the larger language reads the same. -/
theorem scan_foldl_step (query : Text) {reading : Reading}
    (right : query.foldl Reading.step reading ≠ .wrong) :
    query.foldl Scan.step reading.scan = (query.foldl Reading.step reading).scan := by
  induction query generalizing reading with
  | nil => rfl
  | cons c rest ih =>
      rw [List.foldl_cons] at right
      have first : reading.step c ≠ .wrong := by
        intro wrong
        rw [wrong] at right
        exact right (foldl_step_wrong rest)
      rw [List.foldl_cons, scan_step reading c first, ih right, List.foldl_cons]

theorem lexemes?_of_reading {query : Text} {reading : Reading}
    (read : query.foldl Reading.step (.between []) = reading) (right : reading ≠ .wrong) :
    lexemes? query = reading.scan.finish := by
  subst read
  have scanned : query.foldl Scan.step (.between []) = _ := scan_foldl_step query right
  rw [lexemes?, scanned]

/-- What the reader of strings accepts has strings only. -/
theorem lexemes?_of_strings {query : Text} {found : List Text} (reads : strings query = .ok found) :
    lexemes? query = some (found.map .string) := by
  unfold strings at reads
  cases read : query.foldl Reading.step (.between []) with
  | between strings | quoteInside strings present =>
      rw [read] at reads
      obtain rfl := Except.ok.inj reads
      rw [lexemes?_of_reading read nofun]
      simp [Reading.scan, Scan.finish]
  | inside strings present | wrong =>
      rw [read] at reads
      cases reads

/-- A query as a database takes it, which is up to a NUL: with a NUL it ends inside a string. -/
theorem lexemes?_of_nul {terms : List Text}
    (nul : ∃ term ∈ terms, ∃ c ∈ term, goesOn c = false) :
    lexemes? ((queryOf terms).takeWhile goesOn) = none := by
  obtain ⟨earlier, present, read⟩ := foldl_step_of_nul nul []
  exact lexemes?_of_reading read nofun

/-- Without a NUL a database takes the whole query. -/
theorem lexemes?_of_clean {terms : List Text}
    (clean : ∀ term ∈ terms, ∀ c ∈ term, goesOn c = true) :
    lexemes? ((queryOf terms).takeWhile goesOn) = some (terms.map .string) := by
  rw [List.takeWhile_eq_self_iff.2 (goesOn_queryOf clean)]
  exact lexemes?_of_strings (strings_query terms)

theorem goesOn_eq (c : Char) : goesOn c = (c != '\x00') := by
  have nul : c.toNat = 0 ↔ c = '\x00' := ⟨fun zero => Char.toNat_inj.1 zero, fun same => same ▸ rfl⟩
  rw [goesOn, Bool.eq_iff_iff, bne_iff_ne, bne_iff_ne, Ne, nul]

theorem nul_mem_iff (text : Text) :
    '\x00' ∈ text ↔ ∃ term ∈ FullText.terms text, ∃ c ∈ term, goesOn c = false := by
  constructor
  · intro member
    exact exists_term_of_nul ⟨_, member, rfl⟩
  · rintro ⟨term, among, c, held, ends⟩
    rw [goesOn_eq, bne_eq_false_iff_eq] at ends
    exact ends ▸ ((Text.mem_words_iff isBlank text c).1 ⟨term, among, held⟩).1

/-- **The query for a text has its terms and nothing else**, whatever quotes and operators it
contains; only a text of white space has none.  With a NUL, where a database takes it to end, the
query ends inside a string, so it is refused. -/
theorem query_has_only_terms (text : Text) :
    (FullText.query? text = none ↔ Blank text) ∧
    ((∃ c ∈ text, isBlank c = false) → ∃ query terms, FullText.query? text = some query ∧
      terms ≠ [] ∧ (∀ found, FullText.TermsOf text found ↔ found = terms) ∧
      strings query = .ok terms ∧
      lexemes? query = some (terms.map .string) ∧
      lexemes? (query.takeWhile (· != '\x00')) =
        if '\x00' ∈ text then none else some (terms.map .string)) := by
  refine ⟨?_, fun ⟨c, member, solid⟩ => ?_⟩
  · rw [query?_eq, ← FullText.terms_eq_nil_iff]
    split
    · rename_i none_
      exact iff_of_true rfl none_
    · rename_i some_
      exact iff_of_false nofun some_
  · have some_ : FullText.terms text ≠ [] := fun none_ =>
      Bool.eq_false_iff.1 solid (FullText.terms_eq_nil_iff.1 none_ c member)
    have reads := strings_query (FullText.terms text)
    refine ⟨queryOf (FullText.terms text), FullText.terms text, ?_, some_,
      fun _ => FullText.termsOf_iff, reads, lexemes?_of_strings reads, ?_⟩
    · rw [query?_eq, if_neg some_]
    · have stops : (· != '\x00') = goesOn := funext fun c => (goesOn_eq c).symm
      rw [stops]
      split
      · rename_i nul
        exact lexemes?_of_nul ((nul_mem_iff text).1 nul)
      · rename_i absent
        refine lexemes?_of_clean fun term among c held => Bool.of_not_eq_false fun ends => ?_
        exact absent ((nul_mem_iff text).2 ⟨term, among, c, held, ends⟩)

/-- Terms of quotes alone, with an operator and with a quote, between white space of several
kinds. -/
def hostileText : Text := "\t\"\" OR*  a\"b\u3000"

theorem hostileText_has_only_strings :
    (∃ c ∈ hostileText, isBlank c = false) ∧
      FullText.query? hostileText =
        some ("\"\"\"\"\"\" \"OR*\" \"a\"\"b\"" : Text) ∧
      lexemes? "\"\"\"\"\"\" \"OR*\" \"a\"\"b\"" =
        some [.string "\"\"", .string "OR*", .string "a\"b"] := by
  have solid : ∃ c ∈ hostileText, isBlank c = false := ⟨'*', by decide, by decide⟩
  have asked : FullText.query? hostileText =
      some ("\"\"\"\"\"\" \"OR*\" \"a\"\"b\"" : Text) := by decide +kernel
  have cut : FullText.terms hostileText = ["\"\"", "OR*", "a\"b"] := by decide +kernel
  obtain ⟨query, terms, made, -, runs, -, lexemes, -⟩ :=
    (query_has_only_terms hostileText).2 solid
  obtain rfl := Option.some.inj (made.symm.trans asked)
  rw [← (runs _).1 (FullText.termsOf_iff.2 cut.symm)] at lexemes
  exact ⟨solid, asked, lexemes⟩

end Search

end CatalogListing
