/-
# Proofs.Query.Integers -- limits and offsets asked for by an integer

A limit or an offset is asked for by an integer in decimal, of any size.  For an integer that a
signed word of 64 bits holds, the limit is cut at the largest one, and positive offsets stand as
they are.  A larger integer counts as none, like a text that is no integer: its limit is the
default one and its offset the first row (`integer_obeyed_iff`).  So a later offset is answered
with an earlier page exactly if a word holds the earlier offset but not the later one.
-/
import CatalogListing.Proofs.Query.Words
import CatalogListing.Proofs.Text.Numeral

namespace CatalogListing

set_option autoImplicit false

theorem Text.shows_ofInt (n : Int) : Shows n (ofInt n) := by
  refine ⟨[], ofInt n, [], ?_, numeral_ofInt n, ?_, ?_⟩
  · rw [List.nil_append, List.append_nil]
  · exact fun _ member => (List.not_mem_nil member).elim
  · exact fun _ member => (List.not_mem_nil member).elim

namespace PageBounds

/-- The limit for an integer: the integer itself cut at the largest limit, and the default limit
for an integer that is not positive. -/
def clamped (bounds : PageBounds) (n : Int) : Nat :=
  if 0 < n then min n.toNat bounds.maxLimit else bounds.defaultLimit

variable {raw : Text} {n : Int}

/-- An integer counts as a positive number if it is one and a word holds it. -/
theorem positive?_of_shows (shown : Text.Shows n raw) :
    positive? raw = if 0 < n ∧ n ≤ maxOffset then some n.toNat else none := by
  have reads : Text.integer? (Text.trim raw) = some n := Text.integer?_trim_eq_some_iff.2 shown
  have word : Text.inWord64 n = true ↔ -9223372036854775808 ≤ n ∧ n ≤ maxOffset := by
    rw [Text.inWord64, Bool.and_eq_true, decide_eq_true_eq, decide_eq_true_eq]
    rfl
  rw [positive?_eq, Text.signed64?, reads, Option.filter_some]
  by_cases held : Text.inWord64 n = true
  · have high := (word.1 held).2
    rw [if_pos held, Option.bind_some]
    exact if_congr (and_iff_left high).symm rfl rfl
  · have outside : ¬ (0 < n ∧ n ≤ maxOffset) := by
      rintro ⟨positive, high⟩
      exact held (word.2 ⟨by omega, high⟩)
    rw [if_neg held, if_neg outside]
    rfl

/-- The limit for an integer. -/
theorem limit_of_shows (shown : Text.Shows n raw) (bounds : PageBounds) :
    bounds.limit (some raw) = if n ≤ maxOffset then bounds.clamped n else bounds.defaultLimit := by
  rw [limit, Option.bind_some, positive?_of_shows shown, clamped]
  by_cases positive : 0 < n <;> by_cases high : n ≤ maxOffset <;> simp [positive, high]

/-- The offset for an integer. -/
theorem offset_of_shows (shown : Text.Shows n raw) :
    offset (some raw) = if n ≤ maxOffset then n.toNat else 0 := by
  rw [offset, Option.bind_some, positive?_of_shows shown]
  by_cases positive : 0 < n
  · by_cases high : n ≤ maxOffset <;> simp [positive, high]
  · have none_ : n.toNat = 0 := by omega
    simp [positive, none_]

/-- **Limits and offsets asked for by an integer** are the clamped integer and the integer itself
as long as a signed word of 64 bits holds it, and only so long. -/
theorem integer_obeyed_iff (defaultLimit maxLimit : UInt32) (shown : Text.Shows n raw) :
    let bounds : PageBounds := ⟨defaultLimit.toNat, maxLimit.toNat⟩
    ((limitWord defaultLimit maxLimit (some raw)).toNat = bounds.limit (some raw) ∧
      (offsetWord (some raw)).toNat = offset (some raw)) ∧
    (bounds.limit (some raw) = bounds.clamped n ↔ n ≤ maxOffset ∨ defaultLimit = maxLimit) ∧
    (n ≤ 0 → offset (some raw) = 0) ∧
    (∀ (earlier : Text) (m : Int), Text.Shows m earlier → 0 < m → m ≤ n →
      (offset (some earlier) ≤ offset (some raw) ↔ n ≤ maxOffset ∨ maxOffset < m)) ∧
    (0 < n → n ≤ maxOffset → offset (some raw) = n) ∧
    (maxOffset < n →
      bounds.limit (some raw) = bounds.defaultLimit ∧ offset (some raw) = 0) := by
  intro bounds
  have limits := limit_of_shows shown bounds
  have offsets := offset_of_shows shown
  have room := maxLimit.toNat_lt
  refine ⟨⟨toNat_limitWord defaultLimit maxLimit _, toNat_offsetWord _⟩, ?_, ?_, ?_, ?_, ?_⟩
  · by_cases high : n ≤ maxOffset
    · rw [limits, if_pos high]
      exact iff_of_true rfl (.inl high)
    · have above : bounds.clamped n = bounds.maxLimit := by
        unfold maxOffset at high
        rw [clamped, if_pos (by omega)]
        exact min_eq_right (by change maxLimit.toNat ≤ _; omega)
      rw [limits, if_neg high, above, or_iff_right high]
      exact UInt32.toNat_inj
  · intro below
    rw [offsets]
    split
    · omega
    · rfl
  · intro earlier m shownEarlier positive ordered
    rw [offsets, offset_of_shows shownEarlier]
    split <;> split <;> omega
  · intro positive high
    rw [offsets, if_pos high]
    omega
  · intro high
    rw [limits, offsets, if_neg (Int.not_le.2 high), if_neg (Int.not_le.2 high)]
    exact ⟨rfl, rfl⟩

/-- The largest integer that is obeyed, behind an offset with white space around it. -/
theorem largest_word_is_obeyed :
    Text.Shows 9223372036854775807 (Text.ofInt 9223372036854775807) ∧ Text.Shows 41 " 41\t" ∧
      limit ⟨20, 100⟩ (some (Text.ofInt 9223372036854775807)) = 100 ∧
      offset (some " 41\t") ≤ offset (some (Text.ofInt 9223372036854775807)) := by
  have largest := Text.shows_ofInt 9223372036854775807
  have small : Text.Shows 41 " 41\t" := Text.integer?_trim_eq_some_iff.1 (by decide +kernel)
  obtain ⟨-, limits, -, ordered, -⟩ := integer_obeyed_iff 20 100 largest
  exact ⟨largest, small, (limits.2 (.inl (by decide))).trans (by decide),
    (ordered _ 41 small (by decide) (by decide)).2 (.inl (by decide))⟩

/-- The next integer has the default limit, where the bounds say the largest, and the first page,
where the integer before it has the last. -/
theorem next_integer_counts_as_none :
    Text.Shows 9223372036854775808 "9223372036854775808" ∧
      standard.limit (some "9223372036854775808") = 20 ∧
      standard.clamped 9223372036854775808 = 100 ∧
      offset (some "9223372036854775807") = 9223372036854775807 ∧
      offset (some "9223372036854775808") = 0 := by
  refine ⟨Text.integer?_trim_eq_some_iff.1 (by decide +kernel), ?_⟩
  decide +kernel

end PageBounds

end CatalogListing
