/-
# Proofs.Store.Join -- what associations attach, row by row

An association is fetched for a whole page at once, by the distinct keys of its rows, and
the rows that come are told apart by the texts of their keys.  Row by row it attaches
what a look-up of the row's own key would find (`attachment_eq_join`), in whatever order
the keys were collected.

Of the two keys of an association one is a primary key, which is an integer, and the text
of an integer is the text of nothing else (`keyText_eq_iff`).
-/
import CatalogListing.Proofs.Store.Fetch

namespace CatalogListing

set_option autoImplicit false

/-! ## The text of an integer -/

theorem Text.ofNat_injective : Function.Injective Text.ofNat := by
  intro m n same
  calc m = Nat.ofDigitChars 10 (Text.ofNat m) 0 := Nat.ofDigitChars_ten_toDigits.symm
    _ = Nat.ofDigitChars 10 (Text.ofNat n) 0 := by rw [same]
    _ = n := Nat.ofDigitChars_ten_toDigits

theorem Text.isDigit_of_mem_ofNat {n : Nat} {c : Char} (member : c ∈ Text.ofNat n) :
    c.isDigit = true :=
  Nat.isDigit_of_mem_toDigits (by decide) (by decide) member

/-- The character stands in no integer. -/
def Text.Marks (c : Char) : Prop :=
  c ≠ '-' ∧ c.isDigit = false

theorem Text.notMem_ofInt {n : Int} {c : Char} (marks : Text.Marks c) : c ∉ Text.ofInt n := by
  intro member
  cases n with
  | ofNat n =>
      have digit := Text.isDigit_of_mem_ofNat member
      rw [marks.2] at digit
      cases digit
  | negSucc n =>
      rcases List.mem_cons.1 member with rfl | inDigits
      · exact marks.1 rfl
      · have digit := Text.isDigit_of_mem_ofNat inDigits
        rw [marks.2] at digit
        cases digit

theorem Text.ofInt_injective : Function.Injective Text.ofInt := by
  have signed (m n : Nat) : Text.ofNat m ≠ '-' :: Text.ofNat n := by
    intro same
    have digit : ('-' : Char).isDigit = true :=
      Text.isDigit_of_mem_ofNat (n := m) (same ▸ List.mem_cons_self)
    cases digit
  intro m n same
  cases m with
  | ofNat m =>
      cases n with
      | ofNat n => exact congrArg Int.ofNat (Text.ofNat_injective same)
      | negSucc n => exact absurd same (signed m (n + 1))
  | negSucc m =>
      cases n with
      | ofNat n => exact absurd same.symm (signed n (m + 1))
      | negSucc n =>
          have digits := Text.ofNat_injective (List.cons.inj same).2
          exact congrArg Int.negSucc (Nat.succ.inj digits)

/-! ## The texts of other values -/

theorem Text.exists_marks_append (front : Text) {text : Text}
    (marked : ∃ c ∈ text, Text.Marks c) : ∃ c ∈ front ++ text, Text.Marks c := by
  obtain ⟨c, member, marks⟩ := marked
  exact ⟨c, List.mem_append_right _ member, marks⟩

namespace Binary64

theorem point_mem_positional (digits : Digits) : '.' ∈ digits.positional := by
  unfold Digits.positional
  dsimp only
  split
  · simp
  · split <;> simp

theorem exponent_mem_scientific (pointed : Bool) (exponentText : Int → Text) (digits : Digits) :
    'e' ∈ digits.scientific pointed exponentText := by
  simp [Digits.scientific]

/-- A floating-point number shows that it is no integer. -/
theorem exists_marks_withFraction (x : Binary64) : ∃ c ∈ x.withFraction, Text.Marks c := by
  have point : Text.Marks '.' := ⟨by decide, by decide⟩
  have exponent : Text.Marks 'e' := ⟨by decide, by decide⟩
  by_cases zero : x.isZero = true
  · exact ⟨'.', by simp [withFraction, zero], point⟩
  · rw [withFraction, if_neg zero]
    refine Text.exists_marks_append _ ?_
    split
    · exact ⟨'.', point_mem_positional _, point⟩
    · exact ⟨'e', exponent_mem_scientific _ _ _, exponent⟩

end Binary64

namespace Association

variable {association : Association}

/-- A value that is no integer has a character that no integer has. -/
theorem exists_marks_keyText {value : Scalar} (other : ∀ n, value ≠ .integer n) :
    ∃ c ∈ keyText value, Text.Marks c := by
  cases value with
  | integer n => exact absurd rfl (other n)
  | null => exact ⟨'n', by decide, by decide, by decide⟩
  | real x =>
      by_cases infinite : x.isInfinite = true
      · refine ⟨'n', ?_, by decide, by decide⟩
        simp [keyText, Scalar.toJson, Json.print, infinite]
      · have text : keyText (.real x) = x.withFraction := by
          simp [keyText, Scalar.toJson, Json.print, Json.realText, infinite]
        rw [text]
        exact x.exists_marks_withFraction
  | text t => exact ⟨'"', List.mem_cons_self, by decide, by decide⟩
  | blob bytes => exact ⟨'"', List.mem_cons_self, by decide, by decide⟩

theorem keyText_integer (n : Int) : keyText (.integer n) = Text.ofInt n := by
  simp [keyText, Scalar.toJson, Json.print]

/-- **The text of an integer is the text of nothing else.** -/
theorem keyText_eq_iff {value : Scalar} {n : Int} :
    keyText value = keyText (.integer n) ↔ value = .integer n := by
  refine ⟨fun same => ?_, fun same => same ▸ rfl⟩
  by_cases whole : ∃ m, value = .integer m
  · obtain ⟨m, rfl⟩ := whole
    rw [keyText_integer, keyText_integer] at same
    rw [Text.ofInt_injective same]
  · obtain ⟨c, member, marks⟩ := exists_marks_keyText (not_exists.1 whole)
    rw [same, keyText_integer] at member
    exact absurd member (Text.notMem_ofInt marks)

/-! ## The keys of a page -/

/-- Of elements that are taken for the same the first is left. -/
theorem exists_mem_eraseDupsBy {α : Type} {same : α → α → Bool} (refl : ∀ x, same x x = true)
    {list : List α} {x : α} (member : x ∈ list) :
    ∃ y ∈ list.eraseDupsBy same, same x y = true := by
  induction length : list.length using Nat.strongRecOn generalizing list with
  | ind n ih =>
      cases list with
      | nil => cases member
      | cons first rest =>
          rw [List.eraseDupsBy_cons]
          by_cases taken : same x first = true
          · exact ⟨first, List.mem_cons_self, taken⟩
          · have later : x ∈ rest.filter fun other => same other first = false := by
              rcases List.mem_cons.1 member with rfl | inRest
              · exact absurd (refl x) taken
              · exact List.mem_filter.2 ⟨inRest, by simpa using taken⟩
            have shorter : (rest.filter fun other => same other first = false).length ≤
                rest.length := List.length_filter_le _ _
            rw [List.length_cons] at length
            obtain ⟨y, left, equal⟩ := ih _ (by omega) later rfl
            exact ⟨y, List.mem_cons_of_mem _ left, equal⟩

/-- Every integer that a row refers to is among the keys of its page. -/
theorem mem_keysOf {schema : Schema} {rows : List Row} {row : Row} (member : row ∈ rows) {n : Int}
    (refers : row.value schema association.localKey = .integer n) :
    .integer n ∈ association.keysOf schema rows := by
  have collected : .integer n ∈ (rows.map fun row => row.value schema association.localKey).filter
      fun key => !key.isNull :=
    List.mem_filter.2 ⟨List.mem_map.2 ⟨row, member, refers⟩, rfl⟩
  have refl : ∀ key : Scalar, (keyText key == keyText key) = true := fun key => by simp
  obtain ⟨key, left, same⟩ : ∃ key ∈ association.keysOf schema rows,
      (keyText (.integer n) == keyText key) = true :=
    exists_mem_eraseDupsBy refl collected
  obtain rfl := keyText_eq_iff.1 (beq_iff_eq.1 same).symm
  exact left

/-! ## Joining -/

/-- The rows of a table that belong to a key: those whose remote key it is. -/
def joined (association : Association) (table : Table) (key : Scalar) : List Row :=
  table.rows.filter fun row => table.value row association.remoteKey = key

/-- Rows as they are attached: all of them, or the only one. -/
def gathered (association : Association) (table : Table) (rows : List Row) : Json :=
  let records := rows.map fun row => Json.object (row.record table.schema)
  match association.cardinality with
  | .hasMany => .array records
  | .belongsTo => records.headD .null

/-- What belongs to a key, looked up in the whole of the other table. -/
def join (association : Association) (db : Database) (key : Scalar) : Json :=
  match db.table? association.table with
  | none => .null
  | some table => association.gathered table (association.joined table key)

theorem same_self_integer (n : Int) : (Scalar.integer n).same (.integer n) = true := by
  simp [Scalar.same, Scalar.precedes]

/-- One of the two keys is always an integer, and the remote one is kept as one. -/
structure KeyedBy (association : Association) (table : Table) (key : Scalar) : Prop where
  affinity : table.schema.affinityOf association.remoteKey = .integer
  integer : (∃ n, key = .integer n) ∨
    ∀ row ∈ table.rows, ∃ n, table.value row association.remoteKey = .integer n

variable {table : Table} {key : Scalar}

theorem KeyedBy.keyText_eq_iff (keyed : association.KeyedBy table key) {row : Row}
    (member : row ∈ table.rows) :
    keyText (table.value row association.remoteKey) = keyText key ↔
      table.value row association.remoteKey = key := by
  rcases keyed.integer with ⟨n, rfl⟩ | remote
  · exact Association.keyText_eq_iff
  · obtain ⟨n, same⟩ := remote row member
    rw [same, eq_comm, Association.keyText_eq_iff, eq_comm]

/-- **The rows fetched for a page, grouped by the texts of their keys, are for each key those
of a look-up**, in whatever order the keys were collected. -/
theorem attachment_eq_join {db : Database} (found : db.table? association.table = some table)
    (keyed : association.KeyedBy table key) {keys : List Scalar}
    (collected : ∀ n, key = .integer n → key ∈ keys) :
    association.attachment table (association.related table keys) key = association.join db key := by
  have matching : ((association.related table keys).filter fun row =>
      keyText (table.value row association.remoteKey) == keyText key) =
      association.joined table key := by
    rw [related, joined, List.filter_filter]
    refine List.filter_congr fun row member => ?_
    have text := keyed.keyText_eq_iff member
    by_cases own : table.value row association.remoteKey = key
    · -- The key is an integer, so its row was fetched.
      obtain ⟨n, rfl⟩ : ∃ n, key = .integer n := by
        rcases keyed.integer with integer | remote
        · exact integer
        · exact own ▸ remote row member
      have fetched : ∃ other ∈ keys,
          ((Scalar.integer n).same (other.operandFor .integer)) = true :=
        ⟨.integer n, collected n rfl, same_self_integer n⟩
      simpa [own, keyed.affinity, Scalar.isNull] using fetched
    · have apart : keyText (table.value row association.remoteKey) ≠ keyText key :=
        fun same => own (text.1 same)
      simp [own, apart]
  have gathers : association.attachment table (association.related table keys) key =
      association.gathered table ((association.related table keys).filter fun row =>
        keyText (table.value row association.remoteKey) == keyText key) := rfl
  have looksUp : association.join db key =
      association.gathered table (association.joined table key) := by
    rw [join, found]
  rw [gathers, looksUp, matching]

end Association

end CatalogListing
