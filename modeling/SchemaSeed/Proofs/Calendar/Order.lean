import Mathlib
import SchemaSeed.Calendar.Instant

/-!
The count of days and seconds keeps the order of the calendar: a later day is more days away, and a
later time on a day more seconds. So the fourteen digits of a stamp, read as one number, stand in the
order of the instants that they tell.
-/

set_option autoImplicit false
set_option relaxedAutoImplicit false

namespace SchemaSeed.Calendar

namespace Date

/-- A day comes before another by the year, then by the month, then by the day of the month. -/
def IsBefore (d d' : Date) : Prop :=
  d.year < d'.year ∨ d.year = d'.year ∧
    (d.month < d'.month ∨ d.month = d'.month ∧ d.day < d'.day)

/-- The year that a day is in when years begin in March. -/
def marchYear (d : Date) : Int := if d.month ≤ 2 then d.year - 1 else d.year

/-- The month of a day, counted from March. -/
def marchMonth (d : Date) : Int := if d.month ≤ 2 then (d.month : Int) + 9 else (d.month : Int) - 3

/-- The days before a year that begins in March. -/
def yearStart (y : Int) : Int := 365 * y + y / 4 - y / 100 + y / 400

/-- The days of a year that begins in March before one of its months. -/
def monthStart (m : Int) : Int := (153 * m + 2) / 5

theorem toDays_eq (d : Date) :
    d.toDays = yearStart d.marchYear + monthStart d.marchMonth + d.day - 719469 := by
  have floor (y : Int) : y.fdiv 400 = y / 400 := Int.fdiv_eq_ediv_of_nonneg y (by decide)
  unfold toDays yearStart monthStart
  dsimp only
  rw [floor]
  change d.marchYear / 400 * 146097 + ((d.marchYear - d.marchYear / 400 * 400) * 365 +
    (d.marchYear - d.marchYear / 400 * 400) / 4 - (d.marchYear - d.marchYear / 400 * 400) / 100 +
    ((153 * d.marchMonth + 2) / 5 + (d.day : Int) - 1)) - 719468 = _
  omega

theorem of_isValid {d : Date} (valid : d.isValid = true) :
    1 ≤ d.month ∧ d.month ≤ 12 ∧ 1 ≤ d.day ∧ d.day ≤ daysInMonth d.year d.month := by
  simpa [isValid, and_assoc] using valid

theorem daysInMonth_february (year : Int) :
    (daysInMonth year 2 : Int) ≤ yearStart year - yearStart (year - 1) - 337 := by
  have leap : isLeapYear year = true ↔ year % 4 = 0 ∧ (year % 100 ≠ 0 ∨ year % 400 = 0) := by
    simp [isLeapYear]
  unfold daysInMonth yearStart
  rw [if_pos rfl]
  by_cases long : isLeapYear year = true
  · rw [if_pos long]
    have divisible := leap.mp long
    omega
  · rw [if_neg long]
    have other := mt leap.mpr long
    omega

/-- The days of a month are over when the next month of the same year begins. -/
theorem monthStart_add_day_le {d : Date} (valid : d.isValid = true)
    (early : d.marchMonth < 11) :
    monthStart d.marchMonth + d.day ≤ monthStart (d.marchMonth + 1) := by
  obtain ⟨first, last, -, most⟩ := of_isValid valid
  unfold monthStart marchMonth at *
  generalize d.month = month at *
  interval_cases month <;> simp [daysInMonth] at * <;> omega

/-- The days of a year are over when the next year begins. -/
theorem yearStart_add_day_le {d : Date} (valid : d.isValid = true) :
    yearStart d.marchYear + monthStart d.marchMonth + d.day ≤ yearStart (d.marchYear + 1) := by
  obtain ⟨first, last, -, most⟩ := of_isValid valid
  rcases eq_or_ne d.month 2 with february | other
  · have start : monthStart d.marchMonth = 337 := by
      unfold monthStart marchMonth
      rw [february]
      rfl
    have year : d.marchYear = d.year - 1 := if_pos (le_of_eq february)
    have days := daysInMonth_february d.year
    rw [february] at most
    rw [start, year, sub_add_cancel]
    omega
  · have early : d.marchMonth < 11 := by
      unfold marchMonth
      split <;> omega
    have days := monthStart_add_day_le valid early
    have months : monthStart (d.marchMonth + 1) ≤ 337 := by
      unfold monthStart
      omega
    have years : yearStart d.marchYear + 365 ≤ yearStart (d.marchYear + 1) := by
      unfold yearStart
      omega
    omega

theorem yearStart_le {y y' : Int} (before : y ≤ y') : yearStart y ≤ yearStart y' := by
  unfold yearStart
  omega

theorem monthStart_le {m m' : Int} (before : m ≤ m') : monthStart m ≤ monthStart m' := by
  unfold monthStart
  omega

/-- The order of days is the same when years begin in March. -/
theorem IsBefore.march {d d' : Date} (before : d.IsBefore d') (valid : d.isValid = true)
    (valid' : d'.isValid = true) :
    d.marchYear < d'.marchYear ∨ d.marchYear = d'.marchYear ∧
      (d.marchMonth < d'.marchMonth ∨ d.marchMonth = d'.marchMonth ∧ d.day < d'.day) := by
  obtain ⟨first, last, -⟩ := of_isValid valid
  obtain ⟨first', last', -⟩ := of_isValid valid'
  unfold IsBefore at before
  unfold marchYear marchMonth
  split <;> split <;> omega

/-- A later day of the calendar is more days away. -/
theorem toDays_lt {d d' : Date} (valid : d.isValid = true) (valid' : d'.isValid = true)
    (before : d.IsBefore d') : d.toDays < d'.toDays := by
  obtain ⟨first, last, -⟩ := of_isValid valid
  obtain ⟨first', last', some', -⟩ := of_isValid valid'
  rw [toDays_eq, toDays_eq]
  have begun : 0 ≤ monthStart d'.marchMonth := by
    unfold monthStart marchMonth
    split <;> omega
  rcases before.march valid valid' with years | ⟨years, months | ⟨months, days⟩⟩
  · have ended := yearStart_add_day_le valid
    have later := yearStart_le (Int.add_one_le_of_lt years)
    omega
  · have early : d.marchMonth < 11 := by
      refine lt_of_lt_of_le months ?_
      unfold marchMonth
      split <;> omega
    have ended := monthStart_add_day_le valid early
    have later := monthStart_le (Int.add_one_le_of_lt months)
    rw [years]
    omega
  · rw [years, months]
    omega

end Date

namespace Instant

/-- The instant that a stamp tells, read as a number: from the right two digits each for the second,
the minute, the hour, the day and the month, and before them the year. -/
def ofStamp? (stamp : Nat) : Option Instant :=
  let date : Date :=
    ⟨(stamp / 10000000000 : Nat), stamp / 100000000 % 100, stamp / 1000000 % 100⟩
  let time : Time := ⟨stamp / 10000 % 100, stamp / 100 % 100, stamp % 100, 0⟩
  if date.isValid = true ∧ time.hour < 24 ∧ time.minute < 60 ∧ time.second < 60 then
    some (ofParts date time)
  else none

theorem ofStamp?_eq_some {stamp : Nat} {i : Instant} (told : ofStamp? stamp = some i) :
    ∃ date : Date, date.isValid = true ∧ ∃ hour minute second, hour < 24 ∧ minute < 60 ∧
      second < 60 ∧ stamp % 1000000 = hour * 10000 + minute * 100 + second ∧
      date = ⟨(stamp / 10000000000 : Nat), stamp / 100000000 % 100, stamp / 1000000 % 100⟩ ∧
      i.seconds = date.toDays * 86400 + (hour * 3600 + minute * 60 + second : Nat) := by
  unfold ofStamp? at told
  dsimp only at told
  split_ifs at told with inside
  obtain ⟨valid, hours, minutes, seconds⟩ := inside
  obtain rfl := Option.some.inj told
  exact ⟨_, valid, _, _, _, hours, minutes, seconds, by omega, rfl, rfl⟩

/-- The digits of two times of day stand in the order of the seconds since midnight. -/
theorem secondOfDay_lt {hour minute second hour' minute' second' : Nat} (minutes : minute < 60)
    (seconds : second < 60) (minutes' : minute' < 60) (seconds' : second' < 60)
    (less : hour * 10000 + minute * 100 + second < hour' * 10000 + minute' * 100 + second') :
    hour * 3600 + minute * 60 + second < hour' * 3600 + minute' * 60 + second' := by
  rcases Nat.lt_trichotomy hour hour' with earlier | rfl | later
  · linarith
  · rcases Nat.lt_trichotomy minute minute' with earlier | rfl | later <;> linarith
  · linarith

/-- The greater of two stamps tells the later instant. -/
theorem seconds_lt_of_stamp_lt {n m : Nat} {i j : Instant} (told : ofStamp? n = some i)
    (told' : ofStamp? m = some j) (less : n < m) : i.seconds < j.seconds := by
  obtain ⟨date, valid, hour, minute, second, hours, minutes, seconds, rest, parts, total⟩ :=
    ofStamp?_eq_some told
  obtain ⟨date', valid', hour', minute', second', hours', minutes', seconds', rest', parts',
    total'⟩ := ofStamp?_eq_some told'
  rw [total, total']
  rcases Nat.lt_or_ge (n / 1000000) (m / 1000000) with days | days
  · have before : date.IsBefore date' := by
      rw [parts, parts']
      unfold Date.IsBefore
      dsimp only
      omega
    have farther := Date.toDays_lt valid valid' before
    omega
  · have same : date = date' := by
      rw [parts, parts', Date.mk.injEq]
      omega
    have digits : hour * 10000 + minute * 100 + second <
        hour' * 10000 + minute' * 100 + second' := by omega
    have later := secondOfDay_lt minutes seconds minutes' seconds' digits
    rw [same]
    exact Int.add_lt_add_left (Int.ofNat_lt.mpr later) _

/-- Stamps stand in the order of the instants that they tell. -/
theorem stamp_lt_of_seconds_lt {n m : Nat} {i j : Instant} (told : ofStamp? n = some i)
    (told' : ofStamp? m = some j) (earlier : i.seconds < j.seconds) : n < m := by
  rcases lt_trichotomy n m with less | rfl | greater
  · exact less
  · obtain rfl := Option.some.inj (told.symm.trans told')
    exact absurd earlier (lt_irrefl _)
  · exact absurd earlier (lt_asymm (seconds_lt_of_stamp_lt told' told greater))

end Instant

end SchemaSeed.Calendar
