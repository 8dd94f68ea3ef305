import BackupConsole.Proofs.Calendar
import Mathlib.Data.List.Lex
import Mathlib.Data.Nat.Init

set_option autoImplicit false

namespace BackupConsole.Calendar

theorem daysFromEpoch_eq (d : Date) (year : Int)
    (counted : year = if d.month ≤ 2 then d.year - 1 else d.year) :
    daysFromEpoch d = 365 * year + year / 4 - year / 100 + year / 400 +
      (153 * (((d.month : Int) + 9) % 12) + 2) / 5 + d.day - 719469 := by
  have whole := Int.fdiv_eq_ediv_of_nonneg year (show (0 : Int) ≤ 400 by decide)
  rw [daysFromEpoch, ← counted]
  simp only [whole]
  omega

def firstOf (year : Int) (month : Nat) : Int := daysFromEpoch ⟨year, month, 1⟩

theorem daysFromEpoch_eq_firstOf (d : Date) :
    daysFromEpoch d = firstOf d.year d.month + d.day - 1 := by
  rw [firstOf, daysFromEpoch_eq d _ rfl, daysFromEpoch_eq ⟨d.year, d.month, 1⟩ _ rfl]
  simp only
  omega

theorem firstOf_succ (year : Int) {month : Nat} (named : 1 ≤ month ∧ month < 12) :
    firstOf year (month + 1) = firstOf year month + daysInMonth year month := by
  obtain ⟨first, last⟩ := named
  rw [firstOf, firstOf, daysFromEpoch_eq _ _ rfl, daysFromEpoch_eq _ _ rfl]
  by_cases second : month = 2
  · -- March begins the year that February ends.
    subst second
    rw [daysInMonth_february]
    simp only [isLeap_iff]
    simp
    split <;> omega
  · rw [daysInMonth_fromMarch year ⟨first, by omega⟩ second]
    simp only [Nat.cast_add, Nat.cast_one]
    split <;> split <;> omega

theorem firstOf_january (year : Int) : firstOf (year + 1) 1 = firstOf year 12 + 31 := by
  rw [firstOf, firstOf, daysFromEpoch_eq _ _ rfl, daysFromEpoch_eq _ _ rfl]
  simp
  omega

theorem daysInMonth_december (year : Int) : daysInMonth year 12 = 31 := rfl

theorem firstOf_of_month_lt (year : Int) {month later : Nat} (named : 1 ≤ month)
    (less : month < later) (last : later ≤ 12) :
    firstOf year month + daysInMonth year month ≤ firstOf year later := by
  induction later, less using Nat.le_induction with
  | base => exact Int.le_of_eq (firstOf_succ year ⟨named, last⟩).symm
  | succ later after ih =>
    have before := ih (by omega)
    rw [firstOf_succ year ⟨by omega, last⟩]
    omega

theorem firstOf_of_year_lt {year later : Int} (less : year < later) :
    firstOf year 12 + 31 ≤ firstOf later 1 := by
  rw [← firstOf_january, firstOf, firstOf, daysFromEpoch_eq _ _ rfl, daysFromEpoch_eq _ _ rfl]
  simp
  omega

variable {d d' : Date}

theorem Date.Proper.within_month (proper : d.Proper) : firstOf d.year d.month ≤ daysFromEpoch d ∧
    daysFromEpoch d < firstOf d.year d.month + daysInMonth d.year d.month := by
  obtain ⟨_, first, last⟩ := proper
  rw [daysFromEpoch_eq_firstOf]
  omega

theorem Date.Proper.within_year (proper : d.Proper) : firstOf d.year 1 ≤ daysFromEpoch d ∧
    daysFromEpoch d < firstOf d.year 12 + 31 := by
  obtain ⟨begun, unended⟩ := proper.within_month
  obtain ⟨⟨first, last⟩, _⟩ := proper
  -- A month is January or begins after it; it is December or ends before it.
  constructor
  · rcases Nat.eq_or_lt_of_le first with same | later
    · rw [same]
      exact begun
    · have january := firstOf_of_month_lt d.year (Nat.le_refl 1) later last
      omega
  · rcases Nat.eq_or_lt_of_le last with same | earlier
    · rw [same] at unended
      exact unended
    · have december := firstOf_of_month_lt d.year first earlier (Nat.le_refl 12)
      omega

theorem daysFromEpoch_lt_of_year_lt (proper : d.Proper) (proper' : d'.Proper)
    (less : d.year < d'.year) : daysFromEpoch d < daysFromEpoch d' := by
  have years := firstOf_of_year_lt less
  have own := proper.within_year
  have later := proper'.within_year
  omega

theorem proper_first (year : Int) {month : Nat} (named : 1 ≤ month ∧ month ≤ 12) :
    Date.Proper ⟨year, month, 1⟩ :=
  ⟨named, Nat.le_refl 1, Nat.le_trans (show 1 ≤ 28 by decide) (le_daysInMonth year month)⟩

theorem Date.Proper.le_year_iff (proper : d.Proper) (year : Int) :
    year ≤ d.year ↔ firstOf year 1 ≤ daysFromEpoch d := by
  constructor
  · intro reached
    rcases Int.lt_or_eq_of_le reached with later | rfl
    · exact Int.le_of_lt (daysFromEpoch_lt_of_year_lt (proper_first year (by decide)) proper later)
    · exact proper.within_year.1
  · intro reached
    by_contra earlier
    have january := firstOf_of_year_lt (Int.lt_of_not_ge earlier)
    have own := proper.within_year
    omega

theorem daysFromEpoch_lt_of_month_lt (proper : d.Proper) (proper' : d'.Proper)
    (same : d.year = d'.year) (less : d.month < d'.month) :
    daysFromEpoch d < daysFromEpoch d' := by
  have months := firstOf_of_month_lt d.year proper.month.1 less proper'.month.2
  have own := proper.within_month
  have later := proper'.within_month
  rw [← same] at later
  omega

theorem daysFromEpoch_of_day (same : d.year = d'.year) (month : d.month = d'.month) :
    daysFromEpoch d' - daysFromEpoch d = d'.day - d.day := by
  rw [daysFromEpoch_eq_firstOf d, daysFromEpoch_eq_firstOf d', same, month]
  omega

def Date.next (d : Date) : Date :=
  if d.day < daysInMonth d.year d.month then { d with day := d.day + 1 }
  else if d.month < 12 then ⟨d.year, d.month + 1, 1⟩
  else ⟨d.year + 1, 1, 1⟩

theorem Date.Proper.next (proper : d.Proper) : d.next.Proper := by
  obtain ⟨⟨first, last⟩, begun, unended⟩ := proper
  unfold Date.next
  split
  next within => exact ⟨⟨first, last⟩, Nat.le_add_left 1 d.day, within⟩
  next =>
    split
    next earlier => exact proper_first d.year ⟨Nat.le_add_left 1 d.month, earlier⟩
    next => exact proper_first (d.year + 1) (by decide)

theorem daysFromEpoch_next (proper : d.Proper) : daysFromEpoch d.next = daysFromEpoch d + 1 := by
  obtain ⟨⟨first, last⟩, begun, unended⟩ := proper
  unfold Date.next
  split
  next =>
    have later := @daysFromEpoch_of_day d { d with day := d.day + 1 } rfl rfl
    simp only at later
    omega
  next full =>
    have own := daysFromEpoch_eq_firstOf d
    split
    next =>
      change firstOf d.year (d.month + 1) = _
      rw [firstOf_succ d.year ⟨first, by assumption⟩]
      omega
    next =>
      have december : d.month = 12 := by omega
      change firstOf (d.year + 1) 1 = _
      rw [december, daysInMonth_december] at unended full
      rw [december] at own
      rw [firstOf_january]
      omega

def Moment.parts (t : Moment) : List Int :=
  [t.date.year, t.date.month, t.date.day, t.hour, t.minute, t.second]

variable {t t' : Moment}

theorem secondsFromEpoch_lt_of_parts (proper : t.Proper) (proper' : t'.Proper)
    (less : t.parts < t'.parts) : secondsFromEpoch t < secondsFromEpoch t' := by
  obtain ⟨date, hour, minute, second⟩ := proper
  obtain ⟨date', hour', minute', second'⟩ := proper'
  simp only [Moment.parts, List.cons_lt_cons_iff, Nat.cast_lt, Nat.cast_inj, List.lt_irrefl,
    and_false, or_false] at less
  unfold secondsFromEpoch
  rcases less with years | ⟨year, months | ⟨month, less⟩⟩
  · have days := daysFromEpoch_lt_of_year_lt date date' years
    omega
  · have days := daysFromEpoch_lt_of_month_lt date date' year months
    omega
  · have days := daysFromEpoch_of_day year month
    omega

theorem Moment.parts_injective (same : t.parts = t'.parts) : t = t' := by
  obtain ⟨⟨_, _, _⟩, _, _, _⟩ := t
  obtain ⟨⟨_, _, _⟩, _, _, _⟩ := t'
  simpa [parts, and_assoc] using same

theorem parts_lt_iff (proper : t.Proper) (proper' : t'.Proper) :
    t.parts < t'.parts ↔ secondsFromEpoch t < secondsFromEpoch t' := by
  refine ⟨secondsFromEpoch_lt_of_parts proper proper', fun less => ?_⟩
  rcases lt_trichotomy t.parts t'.parts with before | same | after
  · exact before
  · rw [Moment.parts_injective same] at less
    omega
  · have greater := secondsFromEpoch_lt_of_parts proper' proper after
    omega

theorem secondsFromEpoch_injective (proper : t.Proper) (proper' : t'.Proper)
    (same : secondsFromEpoch t = secondsFromEpoch t') : t = t' := by
  apply Moment.parts_injective
  rcases lt_trichotomy t.parts t'.parts with before | same | after
  · have less := secondsFromEpoch_lt_of_parts proper proper' before
    omega
  · exact same
  · have less := secondsFromEpoch_lt_of_parts proper' proper after
    omega

theorem momentOfSeconds_secondsFromEpoch (proper : t.Proper) :
    momentOfSeconds (secondsFromEpoch t) = t :=
  secondsFromEpoch_injective (momentOfSeconds_proper _) proper (secondsFromEpoch_momentOfSeconds _)

theorem existsUnique_moment (seconds : Int) :
    ∃! t : Moment, t.Proper ∧ secondsFromEpoch t = seconds := by
  refine ⟨momentOfSeconds seconds,
    ⟨momentOfSeconds_proper seconds, secondsFromEpoch_momentOfSeconds seconds⟩, ?_⟩
  rintro t ⟨proper, rfl⟩
  exact (momentOfSeconds_secondsFromEpoch proper).symm

def Moment.next (t : Moment) : Moment :=
  if t.second < 59 then { t with second := t.second + 1 }
  else if t.minute < 59 then { t with minute := t.minute + 1, second := 0 }
  else if t.hour < 23 then { t with hour := t.hour + 1, minute := 0, second := 0 }
  else ⟨t.date.next, 0, 0, 0⟩

theorem Moment.Proper.next (proper : t.Proper) : t.next.Proper := by
  obtain ⟨date, hour, minute, second⟩ := proper
  unfold Moment.next
  split
  next within => exact ⟨date, hour, minute, within⟩
  split
  next within => exact ⟨date, hour, within, Nat.zero_le 59⟩
  split
  next within => exact ⟨date, within, Nat.zero_le 59, Nat.zero_le 59⟩
  next => exact ⟨date.next, Nat.zero_le 23, Nat.zero_le 59, Nat.zero_le 59⟩

theorem secondsFromEpoch_next (proper : t.Proper) :
    secondsFromEpoch t.next = secondsFromEpoch t + 1 := by
  have tomorrow := daysFromEpoch_next proper.date
  obtain ⟨_, hour, minute, second⟩ := proper
  unfold Moment.next secondsFromEpoch
  split
  next => simp only; omega
  split
  next => simp only; omega
  split
  next => simp only; omega
  next => simp only [tomorrow]; omega

theorem Moment.Proper.years_iff (proper : t.Proper) : 1 ≤ t.date.year ∧ t.date.year ≤ 9999 ↔
    -62135596800 ≤ secondsFromEpoch t ∧ secondsFromEpoch t ≤ 253402300799 := by
  have first := proper.date.le_year_iff 1
  have beyond := proper.date.le_year_iff 10000
  rw [show firstOf 1 1 = -719162 by decide] at first
  rw [show firstOf 10000 1 = 2932897 by decide] at beyond
  obtain ⟨_, hour, minute, second⟩ := proper
  unfold secondsFromEpoch
  omega

end BackupConsole.Calendar
