/-
# Proofs.Calendar.Counting -- dates by counting days

The date of a day is found by division in a cycle of 400 years that start in March.  This
module counts days from 0000-01-01 on as the calendar lays them out, year by year, month by
month (`daysUntil`), and shows that the division finds each date at its count
(`dateOfDay_daysUntil`).

* `yearOfCycle_add`: the year of a cycle, which is where leap days are made up for;
* `dateOfDay_marchDay`: years from March on, in which the lengths of months are regular;
* `daysBefore_add_lt_iff`, `exists_place`: places of given sizes one behind the other, by
  which dates are in the order of their counts, and every count has its date.
-/
import Mathlib.Tactic.IntervalCases
import CatalogListing.Calendar

namespace CatalogListing.Calendar

set_option autoImplicit false

/-! ## Places one behind the other -/

/-- What the sizes of all places before one come to. -/
def daysBefore (size : Nat → Nat) (place : Nat) : Nat :=
  ((List.range place).map size).sum

section

variable {size : Nat → Nat} {a b i j n : Nat}

theorem daysBefore_succ (size : Nat → Nat) (place : Nat) :
    daysBefore size (place + 1) = daysBefore size place + size place := by
  simp [daysBefore, List.range_succ]

theorem daysBefore_add_le (size : Nat → Nat) (earlier : a < b) :
    daysBefore size a + size a ≤ daysBefore size b := by
  induction b with
  | zero => cases earlier
  | succ b ih =>
      rw [daysBefore_succ]
      rcases Nat.lt_succ_iff_lt_or_eq.1 earlier with before | rfl
      · exact Nat.le_add_right_of_le (ih before)
      · exact Nat.le_refl _

/-- Of two counts the one in the earlier place is less, and in one place the one before. -/
theorem daysBefore_add_lt_iff (left : i < size a) (right : j < size b) :
    daysBefore size a + i < daysBefore size b + j ↔ a < b ∨ a = b ∧ i < j := by
  rcases Nat.lt_trichotomy a b with earlier | rfl | later
  · have whole := daysBefore_add_le size earlier
    omega
  · omega
  · have whole := daysBefore_add_le size later
    omega

/-- Every count is in some place. -/
theorem exists_place (inside : n < daysBefore size b) :
    ∃ a < b, ∃ i < size a, n = daysBefore size a + i := by
  induction b with
  | zero => cases inside
  | succ b ih =>
      by_cases before : n < daysBefore size b
      · obtain ⟨a, earlier, found⟩ := ih before
        exact ⟨a, Nat.lt_succ_of_lt earlier, found⟩
      · rw [daysBefore_succ] at inside
        exact ⟨b, Nat.lt_succ_self b, n - daysBefore size b, by omega, by omega⟩

end

/-! ## The rules of the calendar -/

/-- The year has a leap day: every fourth, but of the full centuries every fourth only. -/
def isLeap (year : Nat) : Bool :=
  year % 4 == 0 && (year % 100 != 0 || year % 400 == 0)

theorem isLeap_iff (year : Nat) :
    isLeap year = true ↔ year % 4 = 0 ∧ (year % 100 ≠ 0 ∨ year % 400 = 0) := by
  simp [isLeap]

def daysOfYear (year : Nat) : Nat :=
  if isLeap year then 366 else 365

/-- The days of a month, January being the first; other numbers are no months. -/
def daysOfMonth (year : Nat) : Nat → Nat
  | 2 => if isLeap year then 29 else 28
  | 4 | 6 | 9 | 11 => 30
  | 1 | 3 | 5 | 7 | 8 | 10 | 12 => 31
  | _ => 0

theorem month_of_daysOfMonth {year month : Nat} (some_ : 0 < daysOfMonth year month) :
    1 ≤ month ∧ month ≤ 12 := by
  unfold daysOfMonth at some_
  split at some_ <;> simp_all

theorem daysOfMonth_le (year month : Nat) : daysOfMonth year month ≤ 31 := by
  unfold daysOfMonth
  split <;> (try split) <;> decide

/-- The days from 0000-01-01 to a date, which come before it. -/
def daysUntil (year month day : Nat) : Nat :=
  daysBefore daysOfYear year + (daysBefore (daysOfMonth year) month + (day - 1))

theorem daysOfYear_eq (year : Nat) :
    daysOfYear year + (if year % 100 = 0 then 1 else 0) =
      365 + (if year % 4 = 0 then 1 else 0) + if year % 400 = 0 then 1 else 0 := by
  have leap := isLeap_iff year
  unfold daysOfYear
  by_cases four : year % 4 = 0
  · by_cases century : year % 100 = 0
    · by_cases cycle : year % 400 = 0 <;> simp_all
    · have inside : year % 400 ≠ 0 := by omega
      simp_all
  · have inside : year % 100 ≠ 0 ∧ year % 400 ≠ 0 := by omega
    simp_all

/-- The days before a year: 365 for each, and one for each leap year. -/
theorem daysBefore_daysOfYear (year : Nat) :
    daysBefore daysOfYear year + (year + 99) / 100 =
      365 * year + (year + 3) / 4 + (year + 399) / 400 := by
  induction year with
  | zero => rfl
  | succ year ih =>
      have last := daysOfYear_eq year
      have fours : (year + 1 + 3) / 4 = (year + 3) / 4 + if year % 4 = 0 then 1 else 0 := by
        split <;> omega
      have centuries : (year + 1 + 99) / 100 =
          (year + 99) / 100 + if year % 100 = 0 then 1 else 0 := by
        split <;> omega
      have cycles : (year + 1 + 399) / 400 =
          (year + 399) / 400 + if year % 400 = 0 then 1 else 0 := by
        split <;> omega
      calc daysBefore daysOfYear (year + 1) + (year + 1 + 99) / 100
        _ = (daysBefore daysOfYear year + (year + 99) / 100) +
              (daysOfYear year + if year % 100 = 0 then 1 else 0) := by
            rw [daysBefore_succ, centuries]
            omega
        _ = 365 * (year + 1) + (year + 1 + 3) / 4 + (year + 1 + 399) / 400 := by
            rw [ih, last, fours, cycles]
            omega

/-- The days of a year before January, February, and the months from March on. -/
theorem daysBefore_daysOfMonth (year : Nat) :
    daysBefore (daysOfMonth year) 1 = 0 ∧ daysBefore (daysOfMonth year) 2 = 31 ∧
      ∀ month ≤ 10, daysBefore (daysOfMonth year) (month + 3) + 306 =
        daysOfYear year + daysBeforeMonth month := by
  refine ⟨rfl, rfl, fun month small => ?_⟩
  unfold daysOfYear
  interval_cases month <;>
    simp only [daysBefore, List.range_succ, List.range_zero, List.nil_append, List.map_append,
      List.map_cons, List.map_nil, List.sum_append, List.sum_cons, List.sum_nil, daysOfMonth,
      daysBeforeMonth] <;>
    split <;> rfl

theorem daysBefore_months (year : Nat) :
    daysBefore (daysOfMonth year) 13 = daysOfYear year := by
  have all : daysBefore (daysOfMonth year) 13 + 306 = daysOfYear year + daysBeforeMonth 10 :=
    (daysBefore_daysOfMonth year).2.2 10 (by decide)
  have march : daysBeforeMonth 10 = 306 := rfl
  omega

theorem daysUntil_epoch : daysUntil 1970 1 1 = 719528 := by
  have years := daysBefore_daysOfYear 1970
  have months := (daysBefore_daysOfMonth 1970).1
  unfold daysUntil
  omega

/-! ## Years from March on -/

/-- **The year of a cycle is found** from any of its days; its last one may be a leap day. -/
theorem yearOfCycle_add {year day : Nat} (inCycle : year < 400)
    (inYear : day < 365 ∨ day = 365 ∧ year % 4 = 3 ∧ (year % 100 ≠ 99 ∨ year = 399)) :
    yearOfCycle (daysBeforeYear year + day) = year := by
  obtain ⟨c, b, a, rfl, isCentury, isFour, isOne⟩ :
      ∃ c b a, year = 100 * c + 4 * b + a ∧ c < 4 ∧ b < 25 ∧ a < 4 :=
    ⟨year / 100, year % 100 / 4, year % 4, by omega, by omega, by omega, by omega⟩
  have start : daysBeforeYear (100 * c + 4 * b + a) = 36524 * c + 1461 * b + 365 * a := by
    unfold daysBeforeYear
    omega
  -- A leap day ends a span of four years, that of the last year the whole cycle.
  have ends : day = 365 → a = 3 ∧ (b < 24 ∨ c = 3 ∧ b = 24) := by omega
  have fours : (36524 * c + 1461 * b + 365 * a + day) / 1460 =
      25 * c + b + if 24 * c + b + 365 * a + day < 1460 then 0 else 1 := by
    split <;> omega
  have centuries : (36524 * c + 1461 * b + 365 * a + day) / 36524 =
      c + if day = 365 ∧ b = 24 then 1 else 0 := by
    split <;> omega
  have cycles : (36524 * c + 1461 * b + 365 * a + day) / 146096 =
      if day = 365 ∧ b = 24 then 1 else 0 := by
    split <;> omega
  unfold yearOfCycle
  rw [start, fours, centuries, cycles]
  split <;> split <;> omega

/-- A day of a month of a year from March on, all three counted from zero. -/
structure InMarchYear (year : Int) (month day : Nat) : Prop where
  isMonth : month < 12
  isDay : daysBeforeMonth month + day < daysBeforeMonth (month + 1)
  inYear : daysBeforeMonth month + day < 365 ∨ daysBeforeMonth month + day = 365 ∧
    year % 4 = 3 ∧ (year % 100 ≠ 99 ∨ year % 400 = 399)

/-- That day, counted from 1970-01-01. -/
def marchDay (year : Int) (month day : Nat) : Int :=
  cycleDays * (year / 400) + daysBeforeYear (year % 400).toNat + daysBeforeMonth month + day -
    epochShift

/-- **The date of a day of a year from March on.** -/
theorem dateOfDay_marchDay {year : Int} {month day : Nat} (inside : InMarchYear year month day) :
    dateOfDay (marchDay year month day) =
      ⟨if month < 10 then year else year + 1, if month < 10 then month + 3 else month - 9,
        day + 1⟩ := by
  obtain ⟨yearInCycle, isYear⟩ : ∃ n : Nat, year % 400 = n := ⟨(year % 400).toNat, by omega⟩
  obtain ⟨isMonth, isDay, inYear⟩ := inside
  obtain ⟨dayOfYear, isDayOfYear⟩ : ∃ n, daysBeforeMonth month + day = n := ⟨_, rfl⟩
  rw [isDayOfYear] at isDay inYear
  have found : yearOfCycle (daysBeforeYear yearInCycle + dayOfYear) = yearInCycle :=
    yearOfCycle_add (by omega) (by omega)
  have foundMonth : (5 * dayOfYear + 2) / 153 = month := by
    unfold daysBeforeMonth at *
    omega
  have inCycle : daysBeforeYear yearInCycle + dayOfYear < 146097 := by
    unfold daysBeforeYear
    omega
  have shifted : marchDay year month day + epochShift =
      cycleDays * (year / 400) + (daysBeforeYear yearInCycle + dayOfYear : Nat) := by
    rw [marchDay, isYear, Int.toNat_natCast]
    omega
  have cycle : (cycleDays * (year / 400) + (daysBeforeYear yearInCycle + dayOfYear : Nat)) /
      cycleDays = year / 400 := by
    unfold cycleDays
    omega
  have rest : ((cycleDays * (year / 400) + (daysBeforeYear yearInCycle + dayOfYear : Nat)) %
      cycleDays).toNat = daysBeforeYear yearInCycle + dayOfYear := by
    unfold cycleDays
    omega
  have dayLeft : dayOfYear - daysBeforeMonth month = day := by omega
  have wholeYear : 400 * (year / 400) + (yearInCycle : Int) = year := by omega
  unfold dateOfDay
  simp only [shifted, cycle, rest, found, Nat.add_sub_cancel_left, foundMonth, dayLeft, wholeYear]
  by_cases late : month < 10
  · simp only [late, if_true]
    rw [if_neg (by omega)]
  · simp only [late, if_false]
    rw [if_pos (by omega)]

/-! ## Dates at their counts -/

section

variable {year month day : Nat}

/-- January and February end the year that started in the March before them. -/
theorem inMarchYear_of_early (early : month ≤ 2) (inside : day < daysOfMonth year month) :
    InMarchYear (year - 1) (month + 9) day := by
  have low := (month_of_daysOfMonth (Nat.zero_lt_of_lt inside)).1
  have leap := isLeap_iff year
  interval_cases month
  · simp only [daysOfMonth] at inside
    refine ⟨by decide, ?_, ?_⟩ <;> unfold daysBeforeMonth <;> omega
  · simp only [daysOfMonth] at inside
    split at inside
    · rename_i long
      rw [leap] at long
      refine ⟨by decide, ?_, ?_⟩ <;> unfold daysBeforeMonth <;> omega
    · refine ⟨by decide, ?_, ?_⟩ <;> unfold daysBeforeMonth <;> omega

theorem inMarchYear_of_late (late : 3 ≤ month) (inside : day < daysOfMonth year month) :
    InMarchYear year (month - 3) day := by
  have high := (month_of_daysOfMonth (Nat.zero_lt_of_lt inside)).2
  interval_cases month <;> simp only [daysOfMonth] at inside <;>
    refine ⟨by decide, ?_, ?_⟩ <;> simp only [daysBeforeMonth] <;> omega

theorem marchDay_of_early (low : 1 ≤ month) (early : month ≤ 2) :
    marchDay (year - 1) (month + 9) day = (daysUntil year month (day + 1) : Int) - 719528 := by
  have years := daysBefore_daysOfYear year
  obtain ⟨january, february, -⟩ := daysBefore_daysOfMonth year
  unfold daysUntil marchDay cycleDays epochShift daysBeforeYear
  interval_cases month
  · rw [january]
    simp only [daysBeforeMonth]
    omega
  · rw [february]
    simp only [daysBeforeMonth]
    omega

theorem marchDay_of_late (late : 3 ≤ month) (high : month ≤ 12) :
    marchDay year (month - 3) day = (daysUntil year month (day + 1) : Int) - 719528 := by
  have years := daysBefore_daysOfYear year
  have leap := isLeap_iff year
  have months := (daysBefore_daysOfMonth year).2.2 (month - 3) (by omega)
  rw [Nat.sub_add_cancel late, daysOfYear] at months
  unfold daysUntil marchDay cycleDays epochShift daysBeforeYear
  split at months
  · rename_i long
    rw [leap] at long
    omega
  · rename_i short
    rw [leap] at short
    omega

/-- **The date of a day is the one whose count it is.** -/
theorem dateOfDay_daysUntil (first : 0 < day) (last : day ≤ daysOfMonth year month) :
    dateOfDay ((daysUntil year month day : Int) - daysUntil 1970 1 1) = ⟨year, month, day⟩ := by
  obtain ⟨day, rfl⟩ := Nat.exists_eq_succ_of_ne_zero (Nat.pos_iff_ne_zero.1 first)
  obtain ⟨low, high⟩ := month_of_daysOfMonth (Nat.lt_of_lt_of_le first last)
  rw [daysUntil_epoch]
  by_cases early : month ≤ 2
  · rw [Nat.succ_eq_add_one, Nat.cast_ofNat, ← marchDay_of_early low early,
      dateOfDay_marchDay (inMarchYear_of_early early last), if_neg (by omega), if_neg (by omega)]
    simp
  · have late : 3 ≤ month := by omega
    rw [Nat.succ_eq_add_one, Nat.cast_ofNat, ← marchDay_of_late late high,
      dateOfDay_marchDay (inMarchYear_of_late late last), if_pos (by omega), if_pos (by omega)]
    simp [late]

end

end CatalogListing.Calendar
