import BackupConsole.Calendar
import Mathlib.Data.Int.Cast.Basic
import Mathlib.Tactic.IntervalCases

set_option autoImplicit false

namespace BackupConsole.Calendar

theorem isLeap_iff (year : Int) :
    isLeap year = true ↔ year % 4 = 0 ∧ (year % 100 ≠ 0 ∨ year % 400 = 0) := by
  simp [isLeap]

def yearOfDay (day : Int) : Int := (day - day / 1460 + day / 36524 - day / 146096) / 365

def daysBefore (year : Int) : Int := 365 * year + year / 4 - year / 100

theorem yearOfDay_of_century {century group place : Int}
    (century_bounds : 0 ≤ century ∧ century ≤ 3) (group_bounds : 0 ≤ group ∧ group ≤ 24)
    (place_bounds : 0 ≤ place ∧ place ≤ 1460) (within : 1461 * group + place < 36524) :
    ∃ year, 0 ≤ year ∧ year ≤ 3 ∧ 365 * year ≤ place ∧ place ≤ 365 * year + 365 ∧
      (place = 365 * year + 365 → year = 3) ∧
      yearOfDay (36524 * century + 1461 * group + place) = 100 * century + 4 * group + year := by
  unfold yearOfDay
  generalize located : 36524 * century + 1461 * group + place = day
  have centuries : day / 36524 = century := by omega
  have last : day / 146096 = 0 := by omega
  -- The days that 1460 counts too few lead at most into the next group.
  have groups : day / 1460 =
      25 * century + group + (24 * century + group + place) / 1460 := by omega
  refine ⟨(place - (24 * century + group + place) / 1460) / 365, ?_, ?_, ?_, ?_, ?_, ?_⟩
  all_goals omega

-- A year of four centuries has 365 days, and one more if its last month is the February of a
-- leap year.
theorem yearOfDay_bounds {day : Int} (first : 0 ≤ day) (last : day ≤ 146096) :
    0 ≤ yearOfDay day ∧ yearOfDay day ≤ 399 ∧ 0 ≤ day - daysBefore (yearOfDay day) ∧
      day - daysBefore (yearOfDay day) ≤ 365 ∧
      (day - daysBefore (yearOfDay day) = 365 → isLeap (yearOfDay day + 1) = true) := by
  by_cases leap : day = 146096
  · -- The last day of all is the leap day that ends the fourth century.
    subst leap
    decide
  · obtain ⟨century, group, place, located, century_bounds, group_bounds, place_bounds, within⟩ :
        ∃ century group place, day = 36524 * century + 1461 * group + place ∧
          (0 ≤ century ∧ century ≤ 3) ∧ (0 ≤ group ∧ group ≤ 24) ∧
          (0 ≤ place ∧ place ≤ 1460) ∧ 1461 * group + place < 36524 :=
      ⟨day / 36524, day % 36524 / 1461, day % 36524 % 1461, by omega, by omega, by omega,
        by omega, by omega⟩
    obtain ⟨year, _, _, _, _, _, found⟩ :=
      yearOfDay_of_century century_bounds group_bounds place_bounds within
    have groups : (100 * century + 4 * group + year) / 4 = 25 * century + group := by omega
    have centuries : (100 * century + 4 * group + year) / 100 = century := by omega
    rw [located, found, daysBefore, groups, centuries, isLeap_iff]
    omega

-- A date is found by the era, the year in it, the month counted from March and the day.
theorem dateOfDays_eq (days : Int) : ∃ era year month day : Int,
    (0 ≤ year ∧ year ≤ 399) ∧ (0 ≤ month ∧ month ≤ 11) ∧
      (0 ≤ day ∧ day < (153 * month + 155) / 5 - (153 * month + 2) / 5) ∧
      (month = 11 → day ≤ 27 + if isLeap (year + 1) then 1 else 0) ∧
      days = era * 146097 + daysBefore year + (153 * month + 2) / 5 + day - 719468 ∧
      dateOfDays days = ⟨year + era * 400 + if month < 10 then 0 else 1,
        (if month < 10 then month + 3 else month - 9).toNat, (day + 1).toNat⟩ := by
  obtain ⟨era, cycles⟩ : ∃ era, era = (days + 719468).fdiv 146097 := ⟨_, rfl⟩
  obtain ⟨place, located⟩ : ∃ place, place = days + 719468 - era * 146097 := ⟨_, rfl⟩
  obtain ⟨place_first, place_last⟩ : 0 ≤ place ∧ place ≤ 146096 := by
    rw [Int.fdiv_eq_ediv_of_nonneg _ (by decide)] at cycles
    omega
  obtain ⟨year_first, year_last, first, last, leap⟩ := yearOfDay_bounds place_first place_last
  obtain ⟨rest, counted⟩ : ∃ rest, rest = place - daysBefore (yearOfDay place) := ⟨_, rfl⟩
  obtain ⟨month, months⟩ : ∃ month, month = (5 * rest + 2) / 153 := ⟨_, rfl⟩
  rw [← counted] at first last leap
  refine ⟨era, yearOfDay place, month, rest - (153 * month + 2) / 5, ⟨year_first, year_last⟩,
    by omega, by omega, ?_, by omega, ?_⟩
  · intro february
    split
    next => omega
    next common =>
      have short : rest ≠ 365 := fun full => common (leap full)
      omega
  have found : dateOfDays days = ⟨yearOfDay place + era * 400 +
      if (if month < 10 then month + 3 else month - 9) ≤ 2 then 1 else 0,
      (if month < 10 then month + 3 else month - 9).toNat,
      (rest - (153 * month + 2) / 5 + 1).toNat⟩ := by
    rw [months, counted, located, cycles]
    rfl
  rw [found]
  split
  all_goals
    congr 2
    omega

theorem daysFromEpoch_dateOfDays (days : Int) : daysFromEpoch (dateOfDays days) = days := by
  obtain ⟨era, year, month, day, years, months, days_bounds, _, counted, found⟩ :=
    dateOfDays_eq days
  rw [found, daysFromEpoch]
  -- January and February end the year that is counted from March.
  obtain ⟨named, named_eq, march, turn⟩ : ∃ named : Nat,
      (if month < 10 then month + 3 else month - 9).toNat = named ∧
        ((named : Int) + 9) % 12 = month ∧ (named ≤ 2 ↔ 10 ≤ month) :=
    ⟨_, rfl, by omega, by omega⟩
  simp only [named_eq]
  have counted_year : (if named ≤ 2 then year + era * 400 + (if month < 10 then 0 else 1) - 1
      else year + era * 400 + if month < 10 then 0 else 1) = year + era * 400 := by
    split <;> split <;> omega
  have cycles : (year + era * 400).fdiv 400 = era := by
    rw [Int.fdiv_eq_ediv_of_nonneg _ (by decide)]
    omega
  have told : ((day + 1).toNat : Int) = day + 1 := by omega
  simp only [counted_year, cycles, march, told]
  rw [counted, daysBefore]
  have own : year + era * 400 - era * 400 = year := by omega
  rw [own]
  omega

structure Date.Proper (d : Date) : Prop where
  month : 1 ≤ d.month ∧ d.month ≤ 12
  day : 1 ≤ d.day ∧ d.day ≤ daysInMonth d.year d.month

theorem Date.valid_iff {d : Date} :
    d.valid = true ↔ d.Proper ∧ 1 ≤ d.year ∧ d.year ≤ 9999 := by
  simp only [valid, Bool.and_eq_true, decide_eq_true_eq]
  exact ⟨fun ⟨⟨years, month⟩, day⟩ => ⟨⟨month, day⟩, years⟩,
    fun ⟨⟨month, day⟩, years⟩ => ⟨⟨years, month⟩, day⟩⟩

theorem le_daysInMonth (year : Int) (month : Nat) : 28 ≤ daysInMonth year month := by
  unfold daysInMonth
  split <;> split <;> decide

theorem daysInMonth_le (year : Int) (month : Nat) : daysInMonth year month ≤ 31 := by
  unfold daysInMonth
  split <;> split <;> decide

theorem daysInMonth_fromMarch (year : Int) {month : Nat} (named : 1 ≤ month ∧ month ≤ 12)
    (other : month ≠ 2) : (daysInMonth year month : Int) =
      (153 * (((month : Int) + 9) % 12) + 155) / 5 -
        (153 * (((month : Int) + 9) % 12) + 2) / 5 := by
  obtain ⟨first, last⟩ := named
  rcases Nat.lt_or_gt_of_ne other with january | later
  · obtain rfl : month = 1 := Nat.le_antisymm (Nat.le_of_lt_succ january) first
    rfl
  · interval_cases month <;> rfl

theorem daysInMonth_february (year : Int) :
    (daysInMonth year 2 : Int) = 28 + if isLeap year then 1 else 0 := by
  unfold daysInMonth
  cases isLeap year <;> rfl

theorem dateOfDays_proper (days : Int) : (dateOfDays days).Proper := by
  obtain ⟨era, year, month, day, years, months, days_bounds, february, _, found⟩ :=
    dateOfDays_eq days
  obtain ⟨named, named_eq, march⟩ : ∃ named : Nat,
      (if month < 10 then month + 3 else month - 9).toNat = named ∧
        ((named : Int) + 9) % 12 = month := ⟨_, rfl, by omega⟩
  have bounds : 1 ≤ named ∧ named ≤ 12 := by omega
  rw [found, named_eq]
  refine ⟨bounds, by simp only; omega, ?_⟩
  simp only
  by_cases second : named = 2
  · subst second
    have cycle : isLeap (year + era * 400 + 1) = isLeap (year + 1) := by
      rw [Bool.eq_iff_iff, isLeap_iff, isLeap_iff]
      omega
    have late : ¬ month < 10 := by omega
    have length := daysInMonth_february (year + era * 400 + 1)
    have short := february (by omega)
    rw [cycle] at length
    rw [if_neg late]
    omega
  · have length := daysInMonth_fromMarch (year + era * 400 + if month < 10 then 0 else 1) bounds
      second
    rw [march] at length
    omega

theorem secondsFromEpoch_momentOfSeconds (seconds : Int) :
    secondsFromEpoch (momentOfSeconds seconds) = seconds := by
  rw [secondsFromEpoch, momentOfSeconds]
  simp only
  rw [daysFromEpoch_dateOfDays, Int.fdiv_eq_ediv_of_nonneg _ (by decide)]
  omega

structure Moment.Proper (t : Moment) : Prop where
  date : t.date.Proper
  hour : t.hour ≤ 23
  minute : t.minute ≤ 59
  second : t.second ≤ 59

theorem momentOfSeconds_proper (seconds : Int) : (momentOfSeconds seconds).Proper := by
  rw [momentOfSeconds, Int.fdiv_eq_ediv_of_nonneg _ (by decide)]
  refine ⟨dateOfDays_proper _, ?_, ?_, ?_⟩
  all_goals
    simp only
    omega

end BackupConsole.Calendar
