/-
# Proofs.Listing.WindowStart -- windows that start before the calendar

The service takes the count of days out of the filters and goes that many days back from
the present.  Any positive word of 32 bits is a count, and most of them lead back before the
first year that has dates.

* `apply_eq`: what the service makes of any parameters, told from the count they hold;
* `inRange_start_iff`: up to the year 9999 a window can only start before the calendar, never
  behind it;
* `window_breaks_off_iff`: the counts for which there is no window.  At every time of such a
  clock these are all from 99398189 on, and none up to 96465292.
-/
import CatalogListing.Proofs.Listing.Window

namespace CatalogListing.Window

set_option autoImplicit false

/-! ## Counts of days -/

/-- An instant of the years 1970 to 9999. -/
def OnClock (now : Int) : Prop :=
  0 ≤ now ∧ now ≤ 253402300799

instance (now : Int) : Decidable (OnClock now) :=
  inferInstanceAs (Decidable (_ ∧ _))

/-- The count of days that parameters hold for a resource. -/
def heldCount? (resource : Resource) (parameters : Parameters) : Option Nat :=
  if resource.name = Catalog.books.name then
    (parameters.filters.find? key).bind fun values => values.head?.bind days?
  else none

/-- A count of days is a positive word of 32 bits. -/
theorem bounds_of_days? {raw : Text} {days : Nat} (counts : days? raw = some days) :
    0 < days ∧ days ≤ 4294967295 := by
  obtain ⟨word, positive⟩ := Option.filter_eq_some_iff.1 counts
  obtain ⟨-, small⟩ := Option.filter_eq_some_iff.1 word
  exact ⟨by simpa using positive, by simpa using small⟩

theorem bounds_of_heldCount? {resource : Resource} {parameters : Parameters} {days : Nat}
    (held : heldCount? resource parameters = some days) : 0 < days ∧ days ≤ 4294967295 := by
  unfold heldCount? at held
  split at held
  · obtain ⟨values, -, held⟩ := Option.bind_eq_some_iff.1 held
    obtain ⟨raw, -, counts⟩ := Option.bind_eq_some_iff.1 held
    exact bounds_of_days? counts
  · cases held

/-! ## What the service makes of parameters -/

/-- The parameters without what the service takes out of their filters. -/
def withoutKey (resource : Resource) (parameters : Parameters) : Parameters :=
  { parameters with filters := leftFor resource parameters.filters }

/-- The parameters with the clause for a count of days in the place of what was taken. -/
def withCount (now : Int) (resource : Resource) (parameters : Parameters) (days : Nat) :
    Parameters :=
  (withoutKey resource parameters).addCustom clause
    [.text (Calendar.timestamp (now - 86400 * days))]

/-- **What the service makes of parameters**, told from the count of days that they hold. -/
theorem apply_eq (now : Int) (resource : Resource) (parameters : Parameters) :
    apply now resource parameters =
      match heldCount? resource parameters with
      | none => .ok (withoutKey resource parameters)
      | some days =>
          if Calendar.inRange (start now days) then .ok (withCount now resource parameters days)
          else .error .beforeCalendar := by
  by_cases books : resource.name = Catalog.books.name
  · simp only [apply, heldCount?, withCount, withoutKey, leftFor, if_pos books,
      Parameters.takeFilter]
    cases found : parameters.filters.find? key with
    | none => rw [Keyed.erase_of_find?_eq_none found]; rfl
    | some values =>
        simp only [narrow, Option.bind_some]
        cases values.head?.bind days? <;> rfl
  · simp only [apply, heldCount?, withoutKey, leftFor, if_neg books]

/-- A window starts before the calendar, or in it. -/
theorem inRange_start_iff {now : Int} (late : now ≤ 253402300799) (days : Nat) :
    Calendar.inRange (start now days) = true ↔ -8334601228800 ≤ now - 86400 * days := by
  have inside : Calendar.inRange (start now days) = true ↔
      (-8334601228800 : Int) ≤ now - 86400 * days ∧
        now - 86400 * days ≤ (8210266876799 : Int) := by
    rw [Calendar.inRange, Bool.and_eq_true, decide_eq_true_eq, decide_eq_true_eq]
    rfl
  rw [inside]
  omega

/-- **The counts of days for which the service breaks off**, whatever else the parameters
hold.  With any other count it adds its clause, and without one it drops the values. -/
theorem window_breaks_off_iff {now : Int} (clock : OnClock now) (resource : Resource)
    (parameters : Parameters) :
    ((∃ failure, apply now resource parameters = .error failure) ↔
      ∃ days, heldCount? resource parameters = some days ∧
        now - 86400 * days < Calendar.earliest) ∧
    (heldCount? resource parameters = none →
      apply now resource parameters = .ok (withoutKey resource parameters)) ∧
    ∀ days, heldCount? resource parameters = some days → days ≤ 4294967295 ∧
      (Calendar.earliest ≤ now - 86400 * days →
        apply now resource parameters = .ok (withCount now resource parameters days)) ∧
      (days ≤ 96465292 →
        apply now resource parameters = .ok (withCount now resource parameters days)) ∧
      (99398189 ≤ days → apply now resource parameters = .error .beforeCalendar) := by
  have settled := apply_eq now resource parameters
  have earliest : (Calendar.earliest : Int) = -8334601228800 := rfl
  rw [earliest]
  cases held : heldCount? resource parameters with
  | none =>
      rw [held] at settled
      refine ⟨⟨fun ⟨_, failed⟩ => ?_, fun ⟨_, none_, _⟩ => nomatch none_⟩, fun _ => settled,
        fun _ none_ => nomatch none_⟩
      cases settled.symm.trans failed
  | some count =>
      rw [held] at settled
      dsimp only at settled
      have inside := inRange_start_iff clock.2 count
      obtain ⟨early, late⟩ := clock
      have serves (reached : -8334601228800 ≤ now - 86400 * count) :
          apply now resource parameters = .ok (withCount now resource parameters count) := by
        rw [settled, if_pos (inside.2 reached)]
      have fails (before : now - 86400 * count < -8334601228800) :
          apply now resource parameters = .error .beforeCalendar := by
        rw [settled, if_neg]
        intro inRange
        have reached := inside.1 inRange
        omega
      refine ⟨⟨?_, ?_⟩, ?_, ?_⟩
      · rintro ⟨failure, failed⟩
        refine ⟨count, rfl, Int.not_le.1 fun reached => ?_⟩
        cases (serves reached).symm.trans failed
      · rintro ⟨days, same, before⟩
        obtain rfl := Option.some.inj same
        exact ⟨_, fails before⟩
      · intro none_
        cases none_
      · intro days same
        obtain rfl := Option.some.inj same
        have small := (bounds_of_heldCount? held).2
        refine ⟨small, serves, fun few => serves ?_, fun many => fails ?_⟩
        · omega
        · omega

/-- The last count that leads into the calendar at noon of the last day of March 2024. -/
theorem earliest_window_starts_in_first_year :
    OnClock 1711886400 ∧
      heldCount? Catalog.books (.ofPairs [(key, " 96485105 ")] .standard) = some 96485105 ∧
      apply 1711886400 Catalog.books (.ofPairs [(key, " 96485105 ")] .standard) =
        .ok ((Parameters.ofPairs [] .standard).addCustom clause
          [.text "-262143-01-01 12:00:00"]) := by
  have clock : OnClock 1711886400 := by decide
  have held : heldCount? Catalog.books (.ofPairs [(key, " 96485105 ")] .standard) =
      some 96485105 := by decide +kernel
  have text : withCount 1711886400 Catalog.books (.ofPairs [(key, " 96485105 ")] .standard)
      96485105 = (Parameters.ofPairs [] .standard).addCustom clause
        [.text "-262143-01-01 12:00:00"] := by decide +kernel
  refine ⟨clock, held, ?_⟩
  obtain ⟨-, -, counted⟩ := window_breaks_off_iff clock Catalog.books
    (.ofPairs [(key, " 96485105 ")] .standard)
  obtain ⟨-, reaches, -⟩ := counted 96485105 held
  rw [reaches (by decide), text]

/-- The largest word of 32 bits is accepted as a count of days, and the service breaks off on
it, where a count of zero and texts that are none are dropped. -/
theorem largest_count_breaks_off :
    OnClock 1711886400 ∧ days? "4294967295" = some 4294967295 ∧
      apply 1711886400 Catalog.books (.ofPairs [(key, "4294967295")] .standard) =
        .error .beforeCalendar ∧
      ∀ dropped ∈ (["0", "-3", "soon", ""] : List Text),
        apply 1711886400 Catalog.books (.ofPairs [(key, dropped)] .standard) =
          .ok (.ofPairs [] .standard) := by
  refine ⟨by decide, by decide +kernel, rfl, ?_⟩
  simp only [List.forall_mem_cons]
  refine ⟨?_, ?_, ?_, ?_, fun _ member => (List.not_mem_nil member).elim⟩ <;> rfl

end CatalogListing.Window
