/-
# Proofs.Store.Page -- the pages of a sorted answer

A database may answer a selection with the matching rows in any order that agrees with
the terms of the selection (`Answers`); the order of rows that tie is its own.  These are the
answers that its ways of going through rows lead to (`answers_sorted`,
`Answers.exists_scan`).  Pages taken from one answer never repeat or skip a row
(`flatMap_window`).  If no two matching
rows tie there is only one answer (`Answers.unique`), so then the same holds of pages
that are each taken from an answer of their own (`Stable`).
-/
import Mathlib.Algebra.GroupWithZero.Nat
import Mathlib.Order.Defs.Unbundled
import CatalogListing.Proofs.Store.Catalog
import CatalogListing.Proofs.Store.Order

namespace CatalogListing

set_option autoImplicit false

/-! ## Windows of a list -/

/-- At most `limit` rows from an offset on. -/
def window (limit offset : Nat) (rows : List Row) : List Row :=
  (rows.drop offset).take limit

theorem length_window (limit offset : Nat) (rows : List Row) :
    (window limit offset rows).length = min limit (rows.length - offset) := by
  rw [window, List.length_take, List.length_drop]

theorem window_sublist (limit offset : Nat) (rows : List Row) :
    (window limit offset rows).Sublist rows :=
  (List.take_sublist _ _).trans (List.drop_sublist _ _)

/-- **One window after the other is the list from its start.** -/
theorem flatMap_window (limit count : Nat) (rows : List Row) :
    ((List.range count).flatMap fun n => window limit (n * limit) rows) =
      rows.take (count * limit) := by
  induction count with
  | zero => simp
  | succ count ih =>
      rw [List.range_succ, List.flatMap_append, ih, List.flatMap_singleton, window,
        ← List.take_add, Nat.succ_mul]

theorem sum_length_window (limit count : Nat) (rows : List Row) :
    ((List.range count).map fun n => (window limit (n * limit) rows).length).sum =
      min rows.length (count * limit) := by
  rw [← List.length_flatMap, flatMap_window, List.length_take, Nat.min_comm]

/-! ## Strict orders -/

section

variable {schema : Schema} {terms : List OrderTerm} {rows : List Row}

/-- The row comes strictly before another. -/
def ComesFirst (schema : Schema) (terms : List OrderTerm) (x y : Row) : Prop :=
  InOrder schema terms x y ∧ ¬ InOrder schema terms y x

/-- The terms put the rows in a strict total order: of two different rows, one comes
strictly before the other. -/
def OrdersStrictly (schema : Schema) (terms : List OrderTerm) (rows : List Row) : Prop :=
  IsStrictTotalOrder {row // row ∈ rows} fun x y => ComesFirst schema terms x y

theorem InOrder.total (schema : Schema) (terms : List OrderTerm) (x y : Row) :
    InOrder schema terms x y ∨ InOrder schema terms y x := by
  simpa only [standsBefore_iff] using standsBefore_total schema terms x y

theorem InOrder.trans {x y z : Row} (first : InOrder schema terms x y)
    (second : InOrder schema terms y z) : InOrder schema terms x z := by
  simp only [← standsBefore_iff] at first second ⊢
  exact standsBefore_trans first second

/-- **Terms order rows strictly when they tell any two of them apart.** -/
theorem ordersStrictly_iff : OrdersStrictly schema terms rows ↔
    ∀ x ∈ rows, ∀ y ∈ rows, (∀ term ∈ terms, term.Ties schema x y) → x = y := by
  constructor
  · intro strict x xMember y yMember ties
    rw [← ties_iff, standsBefore_iff, standsBefore_iff] at ties
    have same := strict.trichotomous ⟨x, xMember⟩ ⟨y, yMember⟩ (fun first => first.2 ties.2)
      (fun second => second.2 ties.1)
    exact congrArg Subtype.val same
  · intro apart
    refine { trichotomous := ?_, irrefl := ?_, trans := ?_ }
    · rintro ⟨x, xMember⟩ ⟨y, yMember⟩ notFirst notSecond
      have both : InOrder schema terms x y ∧ InOrder schema terms y x := by
        unfold ComesFirst at notFirst notSecond
        rcases InOrder.total schema terms x y with first | second
        · exact ⟨first, not_not.1 fun other => notFirst ⟨first, other⟩⟩
        · exact ⟨not_not.1 fun other => notSecond ⟨second, other⟩, second⟩
      rw [← standsBefore_iff, ← standsBefore_iff, ties_iff] at both
      exact Subtype.ext (apart x xMember y yMember both)
    · exact fun x first => first.2 first.1
    · rintro x y z ⟨xy, -⟩ ⟨yz, notBack⟩
      exact ⟨xy.trans yz, fun back => notBack (back.trans xy)⟩

theorem OrdersStrictly.of_subset {others : List Row} (strict : OrdersStrictly schema terms rows)
    (subset : others ⊆ rows) : OrdersStrictly schema terms others := by
  rw [ordersStrictly_iff] at strict ⊢
  exact fun x xMember y yMember => strict x (subset xMember) y (subset yMember)

/-- With its key among the terms, a table is in a strict total order. -/
theorem ordersStrictly_of_key {table : Table} (unique : table.keys.Nodup) {term : OrderTerm}
    (member : term ∈ terms) (isKey : term.field = table.schema.key) :
    OrdersStrictly table.schema terms table.rows := by
  rw [ordersStrictly_iff]
  intro x xMember y yMember ties
  have keys : ∀ row : Row, row.value table.schema term.field = .integer row.key :=
    fun row => by rw [Row.value, if_pos isKey]
  have tie := ties term member
  have one : (0 : Int) < Binary64.unitsOfOne := by decide +kernel
  have places : ∀ m n : Int,
      (Scalar.integer m).precedes (.integer n) = true ↔ m < n := by
    intro m n
    have units : (Scalar.integer m).precedes (.integer n) =
        decide (m * Binary64.unitsOfOne < n * Binary64.unitsOfOne) := rfl
    rw [units, decide_eq_true_iff]
    exact Int.mul_lt_mul_right one
  simp only [OrderTerm.Ties, OrderTerm.Prefers, keys, places] at tie
  refine List.inj_on_of_nodup_map unique xMember yMember ?_
  split at tie <;> omega

end

/-! ## Answers -/

namespace Selection

variable {selection : Selection} {db : Database} {table : Table}

/-- The rows may answer the selection: they are the matching ones, in an order that its
terms admit. -/
structure Answers (selection : Selection) (db : Database) (table : Table) (rows : List Row) :
    Prop where
  perm : rows.Perm (selection.matching db table)
  inOrder : rows.Pairwise (InOrder table.schema selection.order)

/-- Whatever way a database has of going through rows, what it sorts is an answer. -/
theorem answers_sorted (selection : Selection) (scan : Scan) (db : Database) (table : Table) :
    selection.Answers db table (selection.sorted scan db table) where
  perm := (List.mergeSort_perm _ _).trans (List.mergeSort_perm _ _)
  inOrder := by
    refine List.Pairwise.imp standsBefore_iff.1 (List.pairwise_mergeSort ?_ ?_ _)
    · exact fun _ _ _ => standsBefore_trans
    · exact fun x y => by simpa using standsBefore_total table.schema selection.order x y

theorem page_eq_window (selection : Selection) (scan : Scan) (db : Database) (table : Table) :
    selection.page scan db table =
      window selection.limit selection.offset (selection.sorted scan db table) := rfl

theorem nodup_matching (selection : Selection) (db : Database) (unique : table.keys.Nodup) :
    (selection.matching db table).Nodup :=
  unique.of_map.filter _

/-- **Every answer is sorted by some way of going through rows.**  So what holds for every
scan holds for any answer. -/
theorem Answers.exists_scan {rows : List Row} (answers : selection.Answers db table rows)
    (unique : table.keys.Nodup) : ∃ scan : Scan, selection.sorted scan db table = rows := by
  have nodup : rows.Nodup := answers.perm.nodup_iff.2 (nodup_matching selection db unique)
  let comesBy : Row → Row → Bool := fun x y => rows.idxOf x ≤ rows.idxOf y
  have ordered : rows.Pairwise fun x y => comesBy x y = true := by
    rw [List.pairwise_iff_getElem]
    intro i j inside inside' less
    simp only [comesBy, nodup.idxOf_getElem, decide_eq_true_eq]
    omega
  have visited : (selection.matching db table).mergeSort comesBy = rows := by
    have perm := (List.mergeSort_perm (selection.matching db table) comesBy).trans
      answers.perm.symm
    refine List.Perm.eq_of_pairwise ?_ (List.pairwise_mergeSort ?_ ?_ _) ordered perm
    · intro x y member member' before after
      simp only [comesBy, decide_eq_true_eq] at before after
      exact (List.idxOf_inj (perm.mem_iff.1 member)).1 (by omega)
    · intro x y z before after
      simp only [comesBy, decide_eq_true_eq] at before after ⊢
      omega
    · intro x y
      simp only [comesBy, Bool.or_eq_true, decide_eq_true_eq]
      omega
  refine ⟨{ Scan.plain with before := fun _ _ => comesBy }, ?_⟩
  unfold sorted
  rw [visited]
  exact List.mergeSort_of_pairwise (answers.inOrder.imp standsBefore_iff.2)

/-! ## Pages -/

section

variable {scan : Scan}

theorem page_sublist (selection : Selection) (scan : Scan) (db : Database) (table : Table) :
    (selection.page scan db table).Sublist (selection.sorted scan db table) :=
  window_sublist _ _ _

theorem mem_matching_of_mem_page {row : Row} (member : row ∈ selection.page scan db table) :
    row ∈ selection.matching db table :=
  (answers_sorted selection scan db table).perm.mem_iff.1
    ((page_sublist selection scan db table).subset member)

theorem nodup_page (selection : Selection) (scan : Scan) (db : Database)
    (unique : table.keys.Nodup) : (selection.page scan db table).Nodup := by
  have sorted := (answers_sorted selection scan db table).perm.nodup_iff.2
    (nodup_matching selection db unique)
  exact sorted.sublist (page_sublist selection scan db table)

theorem length_page (selection : Selection) (scan : Scan) (db : Database) (table : Table) :
    (selection.page scan db table).length =
      min selection.limit ((selection.matching db table).length - selection.offset) := by
  rw [page_eq_window, length_window, (answers_sorted selection scan db table).perm.length_eq]

theorem inOrder_page (selection : Selection) (scan : Scan) (db : Database) (table : Table) :
    (selection.page scan db table).Pairwise (InOrder table.schema selection.order) :=
  (answers_sorted selection scan db table).inOrder.sublist
    (page_sublist selection scan db table)

end

/-! ## One answer -/

/-- **Without ties there is one answer.** -/
theorem Answers.unique {rows others : List Row} (first : selection.Answers db table rows)
    (second : selection.Answers db table others)
    (strict : OrdersStrictly table.schema selection.order (selection.matching db table)) :
    rows = others := by
  rw [ordersStrictly_iff] at strict
  refine List.Perm.eq_of_pairwise ?_ first.inOrder second.inOrder
    (first.perm.trans second.perm.symm)
  intro x y xMember yMember before after
  refine strict x (first.perm.mem_iff.1 xMember) y (second.perm.mem_iff.1 yMember) ?_
  rw [← ties_iff, standsBefore_iff, standsBefore_iff]
  exact ⟨before, after⟩

/-- The pages of a selection are stable: whichever answers they are taken from, the page
at an offset is the same, and pages that follow each other have every matching row once,
as far as they reach. -/
def Stable (selection : Selection) (db : Database) (table : Table) : Prop :=
  ∀ answers : Nat → List Row, (∀ n, selection.Answers db table (answers n)) →
    (∀ scan n offset, window selection.limit offset (answers n) =
      window selection.limit offset (selection.sorted scan db table)) ∧
    ∀ count,
      let pages := (List.range count).flatMap fun n =>
        window selection.limit (n * selection.limit) (answers n)
      pages.Nodup ∧ pages ⊆ selection.matching db table ∧
        ((selection.matching db table).length ≤ count * selection.limit →
          pages.Perm (selection.matching db table))

theorem stable_of_ordersStrictly (unique : table.keys.Nodup)
    (strict : OrdersStrictly table.schema selection.order (selection.matching db table)) :
    selection.Stable db table := by
  intro answers all
  have sorted : ∀ scan n, answers n = selection.sorted scan db table :=
    fun scan n => (all n).unique (answers_sorted selection scan db table) strict
  have perm := (answers_sorted selection .plain db table).perm
  refine ⟨fun scan n offset => by rw [sorted scan n], fun count => ?_⟩
  simp only [sorted .plain, flatMap_window]
  refine ⟨?_, ?_, fun reach => ?_⟩
  · exact ((perm.nodup_iff.2 (nodup_matching selection db unique)).sublist
      (List.take_sublist _ _))
  · exact fun row member => perm.mem_iff.1 (List.mem_of_mem_take member)
  · rw [List.take_of_length_le (perm.length_eq ▸ reach)]
    exact perm

end Selection

end CatalogListing
