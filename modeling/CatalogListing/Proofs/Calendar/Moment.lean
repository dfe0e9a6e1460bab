/-
# Proofs.Calendar.Moment -- the written form of instants

A moment is a second as calendar and clock show it, in a year of four digits.  It has a count
of seconds (`Moment.instant`), by counting days, and a text `YYYY-MM-DD HH:MM:SS`
(`Moment.text`).

* `timestamp_instant`: the timestamp of an instant is the text of its moment, and every instant
  of the years 0 to 9999 has one (`exists_moment`);
* `instantOf?_eq_some_iff`: a text is read back as the one instant whose timestamp it is;
* `precedes_timestamp_iff`: timestamps stand in the order of their instants, and behind those
  of all instants before the year 0, which have a sign (`precedes_timestamp_of_early`).
-/
import CatalogListing.Proofs.Calendar.Counting
import CatalogListing.Proofs.Text.Digits

namespace CatalogListing

set_option autoImplicit false

open Text (lastDigits)

namespace Calendar

/-! ## Moments -/

/-- A second of the years 0 to 9999 as calendar and clock show it. -/
structure Moment where
  year : Nat
  month : Nat
  day : Nat
  hour : Nat
  minute : Nat
  second : Nat
  isYear : year ≤ 9999
  isDay : 0 < day ∧ day ≤ daysOfMonth year month
  isTime : hour < 24 ∧ minute < 60 ∧ second < 60
  deriving DecidableEq

/-- An instant of the years 0 to 9999. -/
def InFourDigits (instant : Int) : Prop :=
  -62167219200 ≤ instant ∧ instant ≤ 253402300799

instance (instant : Int) : Decidable (InFourDigits instant) :=
  inferInstanceAs (Decidable (_ ∧ _))

namespace Moment

/-- The days of the calendar before the moment. -/
def days (moment : Moment) : Nat :=
  daysUntil moment.year moment.month moment.day

/-- The seconds of its day before the moment. -/
def seconds (moment : Moment) : Nat :=
  3600 * moment.hour + 60 * moment.minute + moment.second

/-- The seconds from 1970-01-01 00:00:00 to the moment. -/
def instant (moment : Moment) : Int :=
  86400 * ((moment.days : Int) - daysUntil 1970 1 1) + moment.seconds

/-- The moment as `YYYY-MM-DD HH:MM:SS`. -/
def text (moment : Moment) : Text :=
  lastDigits 4 moment.year ++ '-' :: (lastDigits 2 moment.month ++ '-' ::
    (lastDigits 2 moment.day ++ ' ' :: (lastDigits 2 moment.hour ++ ':' ::
      (lastDigits 2 moment.minute ++ ':' :: lastDigits 2 moment.second))))

theorem seconds_lt (moment : Moment) : moment.seconds < 86400 := by
  obtain ⟨hour, minute, second⟩ := moment.isTime
  unfold seconds
  omega

/-- Every part of a moment has as many digits as it is written with. -/
theorem small (moment : Moment) : moment.year < 10 ^ 4 ∧ moment.month < 10 ^ 2 ∧
    moment.day < 10 ^ 2 ∧ moment.hour < 10 ^ 2 ∧ moment.minute < 10 ^ 2 ∧
    moment.second < 10 ^ 2 := by
  obtain ⟨first, last⟩ := moment.isDay
  obtain ⟨hour, minute, second⟩ := moment.isTime
  have year := moment.isYear
  have month := month_of_daysOfMonth (Nat.lt_of_lt_of_le first last)
  have day := daysOfMonth_le moment.year moment.month
  omega

end Moment

/-! ## The moment of an instant -/

/-- Every instant of the years 0 to 9999 has its moment. -/
theorem exists_moment {instant : Int} (inside : InFourDigits instant) :
    ∃ moment : Moment, moment.instant = instant := by
  have epoch := daysUntil_epoch
  have years := daysBefore_daysOfYear 10000
  obtain ⟨low, high⟩ := inside
  obtain ⟨days, isDays⟩ : ∃ n : Nat, instant / 86400 + 719528 = n :=
    ⟨(instant / 86400 + 719528).toNat, by omega⟩
  obtain ⟨seconds, isSeconds⟩ : ∃ n : Nat, instant % 86400 = n := ⟨(instant % 86400).toNat, by omega⟩
  have inYears : days < daysBefore daysOfYear 10000 := by omega
  obtain ⟨year, isYear, dayOfYear, inYear, sameDays⟩ := exists_place inYears
  rw [← daysBefore_months] at inYear
  obtain ⟨month, -, day, inMonth, isDay⟩ := exists_place inYear
  refine ⟨⟨year, month, day + 1, seconds / 3600, seconds / 60 % 60, seconds % 60, by omega,
    ⟨Nat.succ_pos day, inMonth⟩, by omega⟩, ?_⟩
  have counted : daysUntil year month (day + 1) = days := by
    rw [daysUntil, Nat.add_sub_cancel, ← isDay, ← sameDays]
  simp only [Moment.instant, Moment.days, Moment.seconds, counted, epoch]
  omega

theorem yearText_of_le {year : Nat} (small : year ≤ 9999) :
    yearText year = lastDigits 4 year := by
  have padded : Text.padLeft 4 (Text.ofNat year) = lastDigits 4 year :=
    Text.padLeft_ofNat (by omega)
  unfold yearText
  simp only [Int.natAbs_natCast, padded]
  rw [if_neg (by omega), if_neg (by omega)]

theorem twoDigits_of_lt {n : Nat} (small : n < 10 ^ 2) : twoDigits n = lastDigits 2 n :=
  Text.padLeft_ofNat small

namespace Moment

/-- **The timestamp of an instant is the text of its moment.** -/
theorem timestamp_instant (moment : Moment) : timestamp moment.instant = moment.text := by
  obtain ⟨-, month, day, hour, minute, second⟩ := moment.small
  have isTime := moment.isTime
  have few := moment.seconds_lt
  have date : dateOfDay (moment.instant / 86400) = ⟨moment.year, moment.month, moment.day⟩ := by
    have day : moment.instant / 86400 = (moment.days : Int) - daysUntil 1970 1 1 := by
      unfold instant
      omega
    rw [day, days, dateOfDay_daysUntil moment.isDay.1 moment.isDay.2]
  have time : (moment.instant % 86400).toNat = moment.seconds := by
    unfold instant
    omega
  have hours : moment.seconds / 3600 = moment.hour := by
    unfold seconds
    omega
  have minutes : moment.seconds / 60 % 60 = moment.minute := by
    unfold seconds
    omega
  have secondsLeft : moment.seconds % 60 = moment.second := by
    unfold seconds
    omega
  unfold timestamp dateText
  simp only [date, time, hours, minutes, secondsLeft, yearText_of_le moment.isYear,
    twoDigits_of_lt month, twoDigits_of_lt day, twoDigits_of_lt hour, twoDigits_of_lt minute,
    twoDigits_of_lt second, text, List.append_assoc, List.cons_append]

/-! ## Order -/

theorem dayOfYear_lt (moment : Moment) :
    daysBefore (daysOfMonth moment.year) moment.month + (moment.day - 1) <
      daysOfYear moment.year := by
  obtain ⟨first, last⟩ := moment.isDay
  have month := (month_of_daysOfMonth (Nat.lt_of_lt_of_le first last)).2
  have whole := daysBefore_add_le (daysOfMonth moment.year)
    (show moment.month < 13 from Nat.lt_succ_of_le month)
  rw [daysBefore_months] at whole
  omega

theorem inFourDigits_instant (moment : Moment) : InFourDigits moment.instant := by
  have epoch := daysUntil_epoch
  have isYear := moment.isYear
  have years := daysBefore_daysOfYear 10000
  have whole := daysBefore_add_le daysOfYear
    (show moment.year < 10000 from Nat.lt_succ_of_le isYear)
  have inYear := moment.dayOfYear_lt
  have few := moment.seconds_lt
  unfold InFourDigits instant days
  rw [epoch, daysUntil]
  omega

theorem days_lt_iff (moment other : Moment) : moment.days < other.days ↔
    moment.year < other.year ∨ moment.year = other.year ∧ (moment.month < other.month ∨
      moment.month = other.month ∧ moment.day < other.day) := by
  obtain ⟨first, last⟩ := moment.isDay
  obtain ⟨first', last'⟩ := other.isDay
  have inMonth : moment.day - 1 < daysOfMonth moment.year moment.month := by omega
  have inMonth' : other.day - 1 < daysOfMonth other.year other.month := by omega
  unfold days daysUntil
  rw [daysBefore_add_lt_iff moment.dayOfYear_lt other.dayOfYear_lt]
  refine or_congr_right (and_congr_right fun sameYear => ?_)
  rw [← sameYear] at inMonth' ⊢
  rw [daysBefore_add_lt_iff inMonth inMonth']
  omega

/-- **Texts stand in the order of their moments.** -/
theorem precedes_text_iff (moment other : Moment) :
    Text.precedes moment.text other.text = true ↔ moment.instant < other.instant := by
  obtain ⟨year, month, day, hour, minute, second⟩ := moment.small
  obtain ⟨year', month', day', hour', minute', second'⟩ := other.small
  have earlier := days_lt_iff moment other
  have later := days_lt_iff other moment
  have isTime := moment.isTime
  have isTime' := other.isTime
  unfold text instant seconds
  simp only [Text.precedes_lastDigits_append year year',
    Text.precedes_lastDigits_append month month', Text.precedes_lastDigits_append day day',
    Text.precedes_lastDigits_append hour hour', Text.precedes_lastDigits_append minute minute',
    Text.precedes_lastDigits second second', Text.precedes_cons_self]
  omega

/-! ## Reading -/

/-- The number that a text has from a place on, of some width. -/
def numberAt (text : Text) (start width : Nat) : Nat :=
  Text.digitsValue ((text.drop start).take width)

/-- The moment that a text is the text of. -/
def ofText? (text : Text) : Option Moment :=
  if valid : numberAt text 0 4 ≤ 9999 ∧
      (0 < numberAt text 8 2 ∧ numberAt text 8 2 ≤ daysOfMonth (numberAt text 0 4) (numberAt text 5 2)) ∧
      (numberAt text 11 2 < 24 ∧ numberAt text 14 2 < 60 ∧ numberAt text 17 2 < 60) then
    let moment : Moment := ⟨numberAt text 0 4, numberAt text 5 2, numberAt text 8 2,
      numberAt text 11 2, numberAt text 14 2, numberAt text 17 2, valid.1, valid.2.1, valid.2.2⟩
    if moment.text = text then some moment else none
  else none

theorem numberAt_lastDigits {width n : Nat} (small : n < 10 ^ width) (rest : Text) :
    numberAt (lastDigits width n ++ rest) 0 width = n := by
  rw [numberAt, List.drop_zero, List.take_left' (Text.length_lastDigits width n),
    Text.digitsValue_lastDigits small]

theorem numberAt_behind (width n : Nat) (c : Char) {rest : Text} (start size : Nat) :
    numberAt (lastDigits width n ++ c :: rest) (width + 1 + start) size =
      numberAt rest start size := by
  have skips : (lastDigits width n ++ c :: rest).drop (width + 1 + start) = rest.drop start := by
    rw [← List.drop_drop, List.append_cons, List.drop_left' (by simp)]
  rw [numberAt, skips, numberAt]

theorem numberAt_text (moment : Moment) :
    numberAt moment.text 0 4 = moment.year ∧ numberAt moment.text 5 2 = moment.month ∧
      numberAt moment.text 8 2 = moment.day ∧ numberAt moment.text 11 2 = moment.hour ∧
      numberAt moment.text 14 2 = moment.minute ∧ numberAt moment.text 17 2 = moment.second := by
  obtain ⟨year, month, day, hour, minute, second⟩ := moment.small
  have whole := numberAt_lastDigits second []
  rw [List.append_nil] at whole
  have behindYear {rest : Text} (start : Nat) :
      numberAt (lastDigits 4 moment.year ++ '-' :: rest) (5 + start) 2 = numberAt rest start 2 :=
    numberAt_behind 4 _ _ _ _
  have behindTwo {n : Nat} {c : Char} {rest : Text} (start : Nat) :
      numberAt (lastDigits 2 n ++ c :: rest) (3 + start) 2 = numberAt rest start 2 :=
    numberAt_behind 2 _ _ _ _
  refine ⟨numberAt_lastDigits year _, ?_, ?_, ?_, ?_, ?_⟩
  · exact (behindYear 0).trans (numberAt_lastDigits month _)
  · exact (behindYear 3).trans ((behindTwo 0).trans (numberAt_lastDigits day _))
  · exact (behindYear 6).trans ((behindTwo 3).trans ((behindTwo 0).trans
      (numberAt_lastDigits hour _)))
  · exact (behindYear 9).trans ((behindTwo 6).trans ((behindTwo 3).trans ((behindTwo 0).trans
      (numberAt_lastDigits minute _))))
  · exact (behindYear 12).trans ((behindTwo 9).trans ((behindTwo 6).trans ((behindTwo 3).trans
      ((behindTwo 0).trans whole))))

theorem ofText?_eq_some_iff {text : Text} {moment : Moment} :
    ofText? text = some moment ↔ moment.text = text := by
  constructor
  · intro read
    unfold ofText? at read
    split at read
    · dsimp only at read
      split at read
      · rename_i same
        obtain rfl := Option.some.inj read
        exact same
      · cases read
    · cases read
  · rintro rfl
    obtain ⟨year, month, day, hour, minute, second⟩ := moment.numberAt_text
    have valid := And.intro moment.isYear (And.intro moment.isDay moment.isTime)
    simp only [ofText?, year, month, day, hour, minute, second, valid, and_self, dif_pos,
      if_true]

end Moment

/-- The instant whose timestamp the text is, if it is one of the years 0 to 9999. -/
def instantOf? (text : Text) : Option Int :=
  (Moment.ofText? text).map Moment.instant

/-- **A text is the timestamp of one instant**, which it is read back as. -/
theorem instantOf?_eq_some_iff {text : Text} {instant : Int} :
    instantOf? text = some instant ↔ InFourDigits instant ∧ text = timestamp instant := by
  rw [instantOf?, Option.map_eq_some_iff]
  constructor
  · rintro ⟨moment, read, rfl⟩
    rw [moment.timestamp_instant]
    exact ⟨moment.inFourDigits_instant, (Moment.ofText?_eq_some_iff.1 read).symm⟩
  · rintro ⟨inside, rfl⟩
    obtain ⟨moment, rfl⟩ := exists_moment inside
    exact ⟨moment, Moment.ofText?_eq_some_iff.2 moment.timestamp_instant.symm, rfl⟩

theorem precedes_timestamp_iff {instant other : Int} (inside : InFourDigits instant)
    (inside' : InFourDigits other) :
    Text.precedes (timestamp instant) (timestamp other) = true ↔ instant < other := by
  obtain ⟨moment, rfl⟩ := exists_moment inside
  obtain ⟨moment', rfl⟩ := exists_moment inside'
  rw [moment.timestamp_instant, moment'.timestamp_instant, Moment.precedes_text_iff]

/-! ## Before the year 0 -/

theorem year_neg_of_early {day : Int} (early : day < -719528) : (dateOfDay day).year < 0 := by
  obtain ⟨dayOfCycle, isDay⟩ : ∃ n : Nat, (day + 719468) % 146097 = n :=
    ⟨((day + 719468) % 146097).toNat, by omega⟩
  have year : yearOfCycle dayOfCycle ≤ 399 := by
    unfold yearOfCycle
    omega
  unfold dateOfDay epochShift cycleDays
  simp only [isDay, Int.toNat_natCast]
  by_cases last : yearOfCycle dayOfCycle = 399
  · -- The last of the years from March on reaches into the year 0, but not before it does.
    rw [last]
    have start : daysBeforeYear 399 = 145731 := rfl
    rw [start]
    split <;> omega
  · split <;> omega

/-- Before the year 0 a timestamp starts with a sign, which stands before every digit. -/
theorem precedes_timestamp_of_early {instant other : Int} (early : instant < -62167219200)
    (inside : InFourDigits other) :
    Text.precedes (timestamp instant) (timestamp other) = true := by
  obtain ⟨moment, rfl⟩ := exists_moment inside
  have before : instant / 86400 < -719528 := by omega
  have year := year_neg_of_early before
  have digit : ('-' : Char).toNat < (Nat.digitChar (moment.year / 10 / 10 / 10 % 10)).toNat := by
    rw [Nat.toNat_digitChar_of_lt_ten (Nat.mod_lt _ (by decide))]
    exact Nat.lt_of_lt_of_le (by decide) (Nat.le_add_right 48 _)
  rw [moment.timestamp_instant]
  unfold timestamp dateText yearText
  simp only [if_pos year, Moment.text, lastDigits, List.nil_append, List.cons_append,
    List.append_assoc, Text.precedes, digit, decide_true, Bool.true_or]

/-! ## Characters -/

/-- The characters that timestamps are written with: digits, signs, blanks and colons. -/
def writes (c : Char) : Bool :=
  c.isDigit || c == '-' || c == '+' || c == ' ' || c == ':'

theorem writes_of_mem_padLeft {width n : Nat} :
    ∀ c ∈ Text.padLeft width (Text.ofNat n), writes c = true := by
  intro c member
  rcases List.mem_append.1 member with zero | digit
  · rw [List.eq_of_mem_replicate zero]
    rfl
  · rw [writes, Nat.isDigit_of_mem_toDigits (by decide) (by decide) digit]
    rfl

theorem writes_of_mem_yearText {year : Int} : ∀ c ∈ yearText year, writes c = true := by
  unfold yearText
  split_ifs
  · exact List.forall_mem_cons.2 ⟨rfl, writes_of_mem_padLeft⟩
  · exact List.forall_mem_cons.2 ⟨rfl, writes_of_mem_padLeft⟩
  · exact writes_of_mem_padLeft

theorem writes_of_mem_timestamp {instant : Int} : ∀ c ∈ timestamp instant, writes c = true := by
  have marks : writes '-' = true ∧ writes ' ' = true ∧ writes ':' = true := ⟨rfl, rfl, rfl⟩
  unfold timestamp dateText twoDigits
  simp only [List.forall_mem_append, List.forall_mem_cons]
  simp only [marks, true_and]
  exact ⟨⟨⟨⟨⟨writes_of_mem_yearText, writes_of_mem_padLeft⟩, writes_of_mem_padLeft⟩,
    writes_of_mem_padLeft⟩, writes_of_mem_padLeft⟩, writes_of_mem_padLeft⟩

theorem timestamp_ne_nil (instant : Int) : timestamp instant ≠ [] := by
  simp [timestamp]

end Calendar

end CatalogListing
