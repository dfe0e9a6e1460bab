/-
# Proofs.Listing.Instants -- columns of timestamps compared with an instant

A value `tNt` with a whole number of seconds `N` of the years 0 to 9999 stands for the timestamp
of that instant, the only text that is read back as it.  Bytes of timestamps are ordered like
their instants, so on a column that holds timestamps the forms of the six comparisons select the
rows whose instant stands in that relation to `N` (`wrapped_instants_compare`).  Any other text
between the two letters is left as it is.
-/
import CatalogListing.Proofs.Filter.Form
import CatalogListing.Proofs.Listing.Column
import CatalogListing.Proofs.Listing.Limits
import CatalogListing.Proofs.Text.ByteOrder

namespace CatalogListing

set_option autoImplicit false

open Calendar (InFourDigits instantOf? timestamp)
open CatalogListing.Filter (Comparison Condition Formless boolean? classify coerce)

/-! ## Wrapped numbers -/

/-- A text between the letters that wrap a count of seconds. -/
def wrapped (inner : Text) : Text :=
  't' :: (inner ++ ['t'])

theorem Text.writes_of_natural? {text : Text} {n : Nat} (reads : natural? text = some n) :
    ∀ c ∈ text, Calendar.writes c = true := by
  unfold natural? at reads
  split at reads
  · rename_i digits
    simp only [Bool.and_eq_true, List.all_eq_true] at digits
    intro c member
    rw [Calendar.writes, digits.2 c member]
    rfl
  · cases reads

/-- A decimal integer is written with digits and signs. -/
theorem Text.writes_of_integer? {text : Text} {n : Int} (reads : integer? text = some n) :
    ∀ c ∈ text, Calendar.writes c = true := by
  unfold integer? at reads
  split at reads <;> obtain ⟨m, found, -⟩ := Option.map_eq_some_iff.1 reads <;>
    obtain ⟨k, digits, -⟩ := Option.bind_eq_some_iff.1 found
  · exact List.forall_mem_cons.2 ⟨rfl, writes_of_natural? digits⟩
  · exact List.forall_mem_cons.2 ⟨rfl, writes_of_natural? digits⟩
  · exact writes_of_natural? digits

theorem wrappedTimestamp?_wrapped (inner : Text) :
    Filter.wrappedTimestamp? (wrapped inner) =
      ((Text.signed64? inner).filter Calendar.inRange).map timestamp := by
  rw [Filter.wrappedTimestamp?, wrapped, Filter.enclosed?_between]
  rfl

theorem inRange_of_inFourDigits {n : Int} (inside : InFourDigits n) :
    Calendar.inRange n = true := by
  obtain ⟨low, high⟩ := inside
  have early : (-8334601228800 : Int) ≤ n := by omega
  have late : n ≤ (8210266876799 : Int) := by omega
  exact Bool.and_eq_true_iff.2 ⟨decide_eq_true early, decide_eq_true late⟩

theorem coerce_wrapped {inner : Text} {n : Int} (reads : Text.signed64? inner = some n)
    (inside : InFourDigits n) : coerce (wrapped inner) = timestamp n := by
  rw [coerce, wrappedTimestamp?_wrapped, reads]
  simp [Option.filter, inRange_of_inFourDigits inside]

/-- What is no count of seconds in the calendar stays as it is. -/
theorem coerce_wrapped_of_other {inner : Text}
    (other : ∀ n, Text.signed64? inner = some n → Calendar.inRange n = false) :
    coerce (wrapped inner) = wrapped inner := by
  have none_ : (Text.signed64? inner).filter Calendar.inRange = none := by
    cases reads : Text.signed64? inner with
    | none => rfl
    | some n => simp [Option.filter, other n reads]
  rw [coerce, wrappedTimestamp?_wrapped, none_]
  rfl

/-- A wrapped text has no other form. -/
theorem formless_wrapped (inner : Text) : Formless (wrapped inner) := by
  have last : (wrapped inner).getLast? = some 't' := Filter.getLast?_between _ _ _
  have unspelled : boolean? (wrapped inner) = none := by
    have short : ∀ text ∈ Filter.spellings, text.getLast? = some 't' → text.length < 2 := by decide
    refine Filter.boolean?_eq_none_iff.2 fun member => ?_
    have few := short _ member last
    rw [wrapped, List.length_cons, List.length_append, List.length_singleton] at few
    omega
  have tame : (wrapped inner).getLast? ≠ some '%' := by
    rw [last]
    decide
  exact Filter.formless_of_first (by decide) tame unspelled

/-- Every comparison with a wrapped number is asked for by its form. -/
theorem classify_written_wrapped {inner : Text} {n : Int} (reads : Text.signed64? inner = some n)
    (comparison : Comparison) :
    classify (comparison.written (wrapped inner)) =
      some (.compare comparison (.text (coerce (wrapped inner)))) := by
  have formless := formless_wrapped inner
  have commaless : ',' ∉ wrapped inner := by
    have plain := Text.writes_of_integer? (Option.filter_eq_some_iff.1 reads).1
    intro member
    rcases List.mem_append.1 ((List.mem_cons.1 member).resolve_left (by decide)) with within | last
    · exact absurd (plain ',' within) (by decide)
    · exact absurd last (by decide)
  have wellFormed : (Condition.compare comparison (.text (wrapped inner))).WellFormed :=
    ⟨List.cons_ne_nil _ _, fun _ => commaless⟩
  have unambiguous : (Condition.compare comparison (.text (wrapped inner))).Unambiguous := by
    cases comparison with
    | equal => exact formless
    | notEqual =>
        have last : (wrapped inner).getLast? = some 't' := Filter.getLast?_between _ _ _
        exact ⟨by rw [last]; decide, formless.set⟩
    | less | greater | atMost | atLeast => trivial
  exact Filter.classify_written wellFormed unambiguous

/-! ## Instants in columns -/

/-- The instant whose timestamp a value is. -/
def Scalar.instant? : Scalar → Option Int
  | .text t => instantOf? t
  | _ => none

/-- The comparison of two instants. -/
def Filter.Comparison.relates : Comparison → Int → Int → Bool
  | .equal, m, n => m = n
  | .notEqual, m, n => m ≠ n
  | .less, m, n => m < n
  | .greater, m, n => n < m
  | .atMost, m, n => m ≤ n
  | .atLeast, m, n => n ≤ m

theorem Scalar.instant?_eq_some_iff {value : Scalar} {n : Int} :
    value.instant? = some n ↔ InFourDigits n ∧ value = .text (timestamp n) := by
  cases value with
  | text t => simp [instant?, Calendar.instantOf?_eq_some_iff]
  | null | integer | real | blob => simp [instant?]

/-- **Timestamps are compared like their instants.** -/
theorem holds_timestamp {m n : Int} (inside : InFourDigits m) (inside' : InFourDigits n)
    (comparison : Comparison) :
    comparison.holds (.text (timestamp m)) (.text (timestamp n)) = comparison.relates m n := by
  have order {a b : Int} (left : InFourDigits a) (right : InFourDigits b) :
      (Scalar.text (timestamp a)).precedes (.text (timestamp b)) = decide (a < b) := by
    rw [Bool.eq_iff_iff, decide_eq_true_iff, ← Calendar.precedes_timestamp_iff left right]
    rfl
  have before := order inside inside'
  have behind := order inside' inside
  cases comparison <;> rw [Bool.eq_iff_iff] <;>
    simp [Comparison.holds, Comparison.relates, Scalar.same, before, behind]
  all_goals omega

/-- The values of a column are timestamps of the years 0 to 9999, or null. -/
def HoldsInstants (table : Table) (column : Text) : Prop :=
  ∀ row ∈ table.rows, row.value table.schema column = .null ∨
    (row.value table.schema column).instant?.isSome = true

instance (table : Table) (column : Text) : Decidable (HoldsInstants table column) :=
  inferInstanceAs (Decidable (∀ row ∈ table.rows, _))

/-- The outcome of a comparison with a timestamp on a value of such a column. -/
theorem outcome_timestamp {value : Scalar} (holds : value = .null ∨ value.instant?.isSome = true)
    {n : Int} (inside : InFourDigits n) (comparison : Comparison) :
    (Condition.compare comparison (.text (timestamp n))).outcome .text value =
      value.instant?.map (comparison.relates · n) := by
  rcases holds with rfl | some_
  · rfl
  · obtain ⟨m, reads⟩ := Option.isSome_iff_exists.1 some_
    obtain ⟨inside', rfl⟩ := Scalar.instant?_eq_some_iff.1 reads
    have compared : comparison.holds (.text (timestamp m))
        ((Scalar.text (timestamp n)).operandFor .text) = comparison.relates m n :=
      holds_timestamp inside' inside comparison
    rw [reads]
    simp [Condition.outcome, Scalar.isNull, Filter.Operand.scalar, compared]

/-! ## Statements -/

/-- The comparison of a column with a text is run as the column, the operator and a placeholder
to which the text is bound. -/
theorem expand_comparison (column : Text) (comparison : Comparison) (text : Text) :
    (RowTest.column column (.compare comparison (.text text))).fragment.expand =
      ⟨Sql.quote column ++ ' ' :: (comparison.operator ++ " ?"), [.text text]⟩ := by
  have sql : (RowTest.column column (.compare comparison (.text text))).fragment.expand.sql =
      Sql.quote column ++ ' ' :: (comparison.operator ++ " ?") :=
    Sql.sql_expandText fun parameter member => by
      obtain rfl := List.mem_singleton.1 member
      rfl
  have sound := @sound_fragment (fun _ => True) column trivial (.compare comparison (.text text))
  exact congr (congrArg Sql.Expanded.mk sql) sound.arguments_expand

/-- The statements of a request with the form pose the comparison with the timestamp. -/
theorem poses_timestamp {resource : Resource} (listed : resource ∈ Catalog.resources)
    {column : Text} (filterable : column ∈ resource.filterable) (service : ListingService)
    (now : Instant) (pairs : List Pair) {N : Text} {n : Int} (reads : Text.signed64? N = some n)
    (inside : InFourDigits n) (comparison : Comparison) :
    (service.selectionOf now resource
      (pairs ++ [(column, comparison.written (wrapped N))])).predicate.expand.Poses
        (Sql.quote column ++ ' ' :: (comparison.operator ++ " ?")) (.text (timestamp n)) := by
  have asks := classify_written_wrapped reads comparison
  rw [coerce_wrapped reads inside] at asks
  have poses := poses_of_mem_asked (@mem_asked_with service now _ pairs _ _
    (Catalog.isColumn listed filterable) _ asks fun text => nofun) rfl
  rwa [congrArg Sql.Expanded.sql (expand_comparison column comparison (timestamp n))] at poses

/-- **Wrapped instants compare.**  A wrapped number of seconds is the timestamp of its instant,
whose bytes stand in the order of instants, and on a text column of timestamps the form of a
comparison selects the rows whose instant stands in it to the number.  What the statements ask
is the column, the operator of the comparison and the timestamp bound to it. -/
theorem wrapped_instants_compare {N : Text} {n : Int} (reads : Text.signed64? N = some n)
    (inside : InFourDigits n) :
    (∀ s, instantOf? s = some n ↔ s = coerce (wrapped N)) ∧
    (∀ s m, instantOf? s = some m →
      (Scalar.bytesPrecede (Utf8.encode (coerce (wrapped N))) (Utf8.encode s) = true ↔ n < m) ∧
      (Scalar.bytesPrecede (Utf8.encode s) (Utf8.encode (coerce (wrapped N))) = true ↔ m < n)) ∧
    (∀ (comparison : Comparison), ∀ resource ∈ Catalog.resources, ∀ column ∈ resource.filterable,
      ∀ (service : ListingService) (now : Instant) (pairs : List Pair),
        let value := comparison.written (wrapped N)
        let asked := (service.selectionOf now resource (pairs ++ [(column, value)])).predicate.expand
        let sql := Sql.quote column ++ ' ' :: (comparison.operator ++ " ?")
        asked.Poses sql (.text (timestamp n)) ∧
        ∀ (db : Database) (table : Table), table.schema.affinityOf column = .text →
          HoldsInstants table column →
          (∀ row ∈ table.rows,
            Sql.Expanded.outcome? ⟨sql, [.text (timestamp n)]⟩ db table.schema row =
              some ((row.value table.schema column).instant?.map (comparison.relates · n))) ∧
          rowsWith service now resource pairs column db table value =
            ((service.selectionOf now resource pairs).matching db table).filter (fun row =>
              (row.value table.schema column).instant?.any (comparison.relates · n)) ∧
          (Keeps table.schema resource → ∀ row ∈ table.rows,
            row ∈ rowsWith service now resource pairs column db table value ↔
              asked.outcome? db table.schema row = some (some true))) ∧
    ∀ inner, (∀ k, Text.signed64? inner = some k → Calendar.inRange k = false) →
      coerce (wrapped inner) = wrapped inner := by
  have coerced := coerce_wrapped reads inside
  refine ⟨fun s => ?_, fun s m canonical => ?_, ?_, fun inner => coerce_wrapped_of_other⟩
  · rw [coerced, Calendar.instantOf?_eq_some_iff]
    exact ⟨And.right, fun same => ⟨inside, same⟩⟩
  · obtain ⟨inside', rfl⟩ := Calendar.instantOf?_eq_some_iff.1 canonical
    rw [coerced, Utf8.bytesPrecede_encode, Utf8.bytesPrecede_encode]
    exact ⟨Calendar.precedes_timestamp_iff inside inside',
      Calendar.precedes_timestamp_iff inside' inside⟩
  · intro comparison resource listed column filterable service now pairs value asked sql
    have asks := classify_written_wrapped reads comparison
    rw [coerced] at asks
    refine ⟨poses_timestamp listed filterable service now pairs reads inside comparison,
      fun db table affinity instants => ⟨fun row member => ?_, ?_, fun keeps row member => ?_⟩⟩
    · have outcome := @RowTest.outcome?_expand db table.schema row
        (.column column (.compare comparison (.text (timestamp n)))) trivial
      rw [expand_comparison] at outcome
      rw [← outcome_timestamp (instants row member) inside comparison, ← affinity]
      exact outcome
    · rw [rowsWith_eq (Catalog.isColumn listed filterable) asks fun text => nofun, affinity]
      refine List.filter_congr fun row member => ?_
      rw [outcome_timestamp (instants row (List.mem_filter.1 member).1) inside comparison]
      cases (row.value table.schema column).instant? with
      | none => rfl
      | some m => exact Bool.eq_iff_iff.2 (by simp)
    · exact mem_rowsWith_iff_outcome? listed keeps column value member

/-- An author with a book of the last second of 1969 and a book of the first of 1970. -/
def writesOfDatedBooks : List Write :=
  [.insert Tables.authors.name [("id", .integer 2), ("name", .text "A"),
      ("created_at", .text "2024-01-01 00:00:00")],
    .insert Tables.books.name [("id", .integer 3), ("author_id", .integer 2),
      ("title", .text "Old"), ("price", .integer 1),
      ("published_at", .text "1969-12-31 23:59:59")],
    .insert Tables.books.name [("id", .integer 4), ("author_id", .integer 2),
      ("title", .text "New"), ("price", .integer 1),
      ("published_at", .text "1970-01-01 00:00:00")]]

/-- Only the later book was published after the last second of 1969. -/
theorem later_book_is_after_wrapped_second :
    Text.signed64? "-1" = some (-1) ∧ InFourDigits (-1) ∧
      instantOf? "1969-12-31 23:59:59" = some (-1) ∧
      ∃ table, (emptyCatalog.afterAll writesOfDatedBooks).table? Tables.books.name = some table ∧
        table.schema.affinityOf "published_at" = .text ∧ HoldsInstants table "published_at" ∧
        (rowsWith (serviceOver (emptyCatalog.afterAll writesOfDatedBooks)) 0 Catalog.books []
          "published_at" (emptyCatalog.afterAll writesOfDatedBooks) table "(t-1t,)").map (·.key) =
            [4] := by
  have computed : ((emptyCatalog.afterAll writesOfDatedBooks).table? Tables.books.name).map
      (fun table => (table.schema.affinityOf "published_at",
        decide (HoldsInstants table "published_at"),
        (table.rows.filter fun row => (row.value table.schema "published_at").instant?.any
          (Comparison.greater.relates · (-1))).map (·.key))) =
      some ((.text, true, [4]) : Affinity × Bool × List Int) := by
    rw [emptyCatalog, Migration.run_empty]
    decide +kernel
  generalize emptyCatalog.afterAll writesOfDatedBooks = db at computed ⊢
  obtain ⟨table, found, all⟩ := Option.map_eq_some_iff.1 computed
  obtain ⟨affinity, rest⟩ := Prod.mk.inj all
  obtain ⟨instants, keys⟩ := Prod.mk.inj rest
  have reads : Text.signed64? "-1" = some (-1) := by decide +kernel
  have inside : InFourDigits (-1) := by decide
  obtain ⟨canonical, -, selects, -⟩ := wrapped_instants_compare reads inside
  obtain ⟨-, selected⟩ := selects .greater Catalog.books (by decide) "published_at" (by decide)
    (serviceOver db) 0 []
  obtain ⟨-, selected, -⟩ := selected db table affinity (of_decide_eq_true instants)
  refine ⟨reads, inside, (canonical _).2 (by decide +kernel), table, found, affinity,
    of_decide_eq_true instants, ?_⟩
  rw [matching_nil] at selected
  exact (congrArg (List.map (·.key)) selected).trans keys

end CatalogListing
