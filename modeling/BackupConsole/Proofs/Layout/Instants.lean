import BackupConsole.Proofs.Calendar.Order
import BackupConsole.Proofs.Layout.Dates

set_option autoImplicit false

namespace BackupConsole.Text

variable {mark : Char} {first : List Char}

theorem splitChars_append_mark (free : mark ∉ first) (rest : List Char) :
    splitChars mark (first ++ mark :: rest) = first :: splitChars mark rest := by
  induction first with
  | nil => simp [splitChars]
  | cons c first ih =>
    obtain ⟨other, free⟩ := List.ne_and_not_mem_of_not_mem_cons free
    rw [List.cons_append, splitChars, if_neg (Ne.symm other), ih free]

theorem splitChars_of_not_mem (free : mark ∉ first) : splitChars mark first = [first] := by
  induction first with
  | nil => rfl
  | cons c first ih =>
    obtain ⟨other, free⟩ := List.ne_and_not_mem_of_not_mem_cons free
    rw [splitChars, if_neg (Ne.symm other), ih free]

end BackupConsole.Text

namespace BackupConsole.Layout

open Calendar (Moment momentOfSeconds secondsFromEpoch)
open Text (splitChars splitChars_append_mark splitChars_of_not_mem)

def numberOf? (cs : List Char) : Option Nat :=
  if cs ≠ [] ∧ cs.all Char.isDigit then some (Nat.ofDigitChars 10 cs 0) else none

def momentOf? (s : String) : Option Moment :=
  match splitChars ' ' s.toList with
  | [date, time] =>
    match (splitChars '-' date).mapM numberOf?, (splitChars ':' time).mapM numberOf? with
    | some [year, month, day], some [hour, minute, second] =>
      some ⟨⟨year, month, day⟩, hour, minute, second⟩
    | _, _ => none
  | _ => none

theorem numberOf?_toDigits (n : Nat) : numberOf? (Nat.toDigits 10 n) = some n := by
  have digits : (Nat.toDigits 10 n).all Char.isDigit = true :=
    List.all_eq_true.2 fun c member => Number.isDigit_of_mem_toDigits member
  rw [numberOf?, if_pos ⟨Nat.toDigits_ne_nil, digits⟩, Nat.ofDigitChars_ten_toDigits]

theorem numberOf?_twoDigits : ∀ n < 100, numberOf? (twoDigits n).toList = some n := by
  decide

theorem not_mem_of_numberOf? {cs : List Char} {n : Nat} {mark : Char}
    (spelled : numberOf? cs = some n) (sign : mark.isDigit = false) : mark ∉ cs := by
  intro member
  unfold numberOf? at spelled
  split at spelled
  next digits =>
    have digit := List.all_eq_true.1 digits.2 mark member
    rw [sign] at digit
    cases digit
  next => cases spelled

theorem numbers_of_marked (mark : Char) (sign : mark.isDigit = false) {as bs cs : List Char}
    {a b c : Nat} (first : numberOf? as = some a) (second : numberOf? bs = some b)
    (third : numberOf? cs = some c) :
    (splitChars mark (as ++ mark :: (bs ++ mark :: cs))).mapM numberOf? = some [a, b, c] := by
  rw [splitChars_append_mark (not_mem_of_numberOf? first sign),
    splitChars_append_mark (not_mem_of_numberOf? second sign),
    splitChars_of_not_mem (not_mem_of_numberOf? third sign)]
  simp [first, second, third]

variable {t : Moment}

theorem momentOf?_momentText (fits : Fits t) (common : 0 ≤ t.date.year) :
    momentOf? (momentText t) = some t := by
  obtain ⟨⟨year, month, day⟩, hour, minute, second⟩ := t
  obtain ⟨year, rfl⟩ := Int.eq_ofNat_of_zero_le common
  have years : numberOf? (year : Int).repr.toList = some year := by
    rw [← numberOf?_toDigits year, ← Nat.toList_repr]
    rfl
  have months := numberOf?_twoDigits month fits.month
  have days := numberOf?_twoDigits day fits.day
  have hours := numberOf?_twoDigits hour fits.hour
  have minutes := numberOf?_twoDigits minute fits.minute
  have seconds := numberOf?_twoDigits second fits.second
  have unspaced {cs : List Char} {n : Nat} (spelled : numberOf? cs = some n) : ' ' ∉ cs :=
    not_mem_of_numberOf? spelled rfl
  have parted : (momentText ⟨⟨year, month, day⟩, hour, minute, second⟩).toList =
      ((year : Int).repr.toList ++ '-' :: ((twoDigits month).toList ++
        '-' :: (twoDigits day).toList)) ++ ' ' :: ((twoDigits hour).toList ++
          ':' :: ((twoDigits minute).toList ++ ':' :: (twoDigits second).toList)) := by
    simp [toList_momentText, afterYear]
  unfold momentOf?
  rw [parted, splitChars_append_mark, splitChars_of_not_mem]
  · simp only [numbers_of_marked '-' rfl years months days,
      numbers_of_marked ':' rfl hours minutes seconds]
  · simp [unspaced hours, unspaced minutes, unspaced seconds]
  · simp [unspaced years, unspaced months, unspaced days]

/-- What is written of a number of seconds, the moment of which is `t`. -/
structure Written (seconds : Int) (t : Moment) (written : Except Failure String) : Prop where
  none : seconds = 0 → written = .ok "-"
  told : seconds ≠ 0 → 1 ≤ t.date.year ∧ t.date.year ≤ 9999 →
    ∃ text, written = .ok text ∧ momentOf? text = some t ∧ t.date.valid = true
  untold : seconds ≠ 0 → ¬ (1 ≤ t.date.year ∧ t.date.year ≤ 9999) →
    written = .error .timestampRange

theorem written_timestamp (proper : t.Proper) :
    Written (secondsFromEpoch t) t (timestamp (secondsFromEpoch t)) where
  none zero := by rw [timestamp, if_pos zero]
  told some years := by
    have range : inRange (secondsFromEpoch t) = true := decide_eq_true (proper.years_iff.1 years)
    have spelled := momentOf?_momentText (fits_of_proper proper) (Int.le_of_lt years.1)
    rw [timestamp, if_neg some, secondsText, if_pos range,
      Calendar.momentOfSeconds_secondsFromEpoch proper]
    exact ⟨_, rfl, spelled, Calendar.Date.valid_iff.2 ⟨proper.date, years⟩⟩
  untold some beyond := by
    have range : inRange (secondsFromEpoch t) = false :=
      decide_eq_false fun within => beyond (proper.years_iff.2 within)
    rw [timestamp, if_neg some, secondsText, range]
    rfl

theorem timestampOf_int (seconds : Int) : timestampOf (.int seconds) = timestamp seconds := by
  unfold timestampOf timestamp
  by_cases zero : seconds = 0 <;> simp [zero, Datum.truthy]

theorem momentOf?_timestamp {seconds : Int} {text : String}
    (written : timestamp seconds = .ok text) :
    momentOf? text = if seconds = 0 then none else some (momentOfSeconds seconds) := by
  have told := written_timestamp (Calendar.momentOfSeconds_proper seconds)
  rw [Calendar.secondsFromEpoch_momentOfSeconds, written] at told
  split
  next zero =>
    cases told.none zero
    decide
  next some =>
    by_cases years :
      1 ≤ (momentOfSeconds seconds).date.year ∧ (momentOfSeconds seconds).date.year ≤ 9999
    · obtain ⟨_, same, read, _⟩ := told.told some years
      cases same
      exact read
    · cases told.untold some years

theorem timestamp_injective {seconds other : Int} {text : String}
    (written : timestamp seconds = .ok text) (also : timestamp other = .ok text) :
    seconds = other := by
  have read := momentOf?_timestamp written
  rw [momentOf?_timestamp also] at read
  split at read <;> split at read
  next zero zero' => rw [zero, zero']
  next => cases read
  next => cases read
  next =>
    rw [← Calendar.secondsFromEpoch_momentOfSeconds seconds, ← Option.some.inj read,
      Calendar.secondsFromEpoch_momentOfSeconds]

/-- Times are exact. The clock and the calendar count the seconds, each of which has one moment, and
what is written of a number of seconds reads as its moment. So no two numbers are written alike, and
the greater number reads as the greater date and time. -/
theorem timestamps_exact :
    (secondsFromEpoch ⟨⟨1970, 1, 1⟩, 0, 0, 0⟩ = 0 ∧ ∀ t : Moment, t.Proper →
      t.next.Proper ∧ secondsFromEpoch t.next = secondsFromEpoch t + 1) ∧
    (∀ seconds, ∃! t : Moment, t.Proper ∧ secondsFromEpoch t = seconds) ∧
    (∀ t : Moment, t.Proper → Written (secondsFromEpoch t) t (timestamp (secondsFromEpoch t))) ∧
    (∀ seconds, timestampOf (.int seconds) = timestamp seconds) ∧
    (∀ seconds other text, timestamp seconds = .ok text → timestamp other = .ok text →
      seconds = other) ∧
    ∀ seconds later text after t u, seconds < later → timestamp seconds = .ok text →
      timestamp later = .ok after → momentOf? text = some t → momentOf? after = some u →
        t.parts < u.parts := by
  refine ⟨⟨by decide, fun t proper => ⟨proper.next, Calendar.secondsFromEpoch_next proper⟩⟩,
    Calendar.existsUnique_moment, fun t => written_timestamp, timestampOf_int,
    fun _ _ _ => timestamp_injective, ?_⟩
  intro seconds later text after t u less written also read read'
  have told {seconds : Int} {text : String} {t : Moment} (written : timestamp seconds = .ok text)
      (read : momentOf? text = some t) : t.Proper ∧ secondsFromEpoch t = seconds := by
    rw [momentOf?_timestamp written] at read
    split at read
    next => cases read
    next =>
      cases read
      exact ⟨Calendar.momentOfSeconds_proper seconds,
        Calendar.secondsFromEpoch_momentOfSeconds seconds⟩
  obtain ⟨proper, rfl⟩ := told written read
  obtain ⟨proper', rfl⟩ := told also read'
  exact (Calendar.parts_lt_iff proper proper').2 less

/-- The year 1900 is divisible by four and no leap year; a second later it is March. The day before
the first of all years cannot be written. -/
theorem timestamps_exact_1900 :
    let last : Moment := ⟨⟨1900, 2, 28⟩, 23, 59, 59⟩
    let march : Moment := ⟨⟨1900, 3, 1⟩, 0, 0, 0⟩
    let before : Moment := ⟨⟨0, 12, 31⟩, 23, 59, 59⟩
    last.Proper ∧ last.next = march ∧ march.Proper ∧ before.Proper ∧
      secondsFromEpoch march = -2203891200 ∧ secondsFromEpoch last = -2203891201 ∧
      (∃ text, timestamp (-2203891201) = .ok text ∧ momentOf? text = some last) ∧
      last.parts < march.parts ∧ timestamp (-62135596801) = .error .timestampRange := by
  intro last march before
  have proper : last.Proper := ⟨⟨by decide, by decide⟩, by decide, by decide, by decide⟩
  have early : before.Proper := ⟨⟨by decide, by decide⟩, by decide, by decide, by decide⟩
  obtain ⟨⟨_, clock⟩, _, written, _, _, ordered⟩ := timestamps_exact
  obtain ⟨proper', _⟩ := clock last proper
  obtain ⟨text, shown, read, _⟩ := (written last proper).told (by decide) (by decide)
  obtain ⟨after, shown', read', _⟩ := (written march proper').told (by decide) (by decide)
  have untold := (written before early).untold (by decide) (by decide)
  have seconds : secondsFromEpoch last = -2203891201 := by decide
  have seconds' : secondsFromEpoch march = -2203891200 := by decide
  have less : last.parts < march.parts :=
    ordered _ _ _ _ _ _ (by rw [seconds, seconds']; decide) shown shown' read read'
  rw [seconds] at shown
  rw [show secondsFromEpoch before = -62135596801 by decide] at untold
  exact ⟨proper, rfl, proper', early, seconds', seconds, ⟨text, shown, read⟩, less, untold⟩

end BackupConsole.Layout
