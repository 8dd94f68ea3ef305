import BackupConsole.Layout.Timestamp
import BackupConsole.Proofs.Calendar
import BackupConsole.Proofs.Layout.Lines
import BackupConsole.Proofs.Number.Written

set_option autoImplicit false

namespace BackupConsole.Layout

open Calendar (Moment momentOfSeconds)
open Text (Unbroken unbroken_append)

def seenText (seconds : Int) : String :=
  if seconds = 0 then "-" else momentText (momentOfSeconds seconds)

def readTwo : List Char → Nat
  | [a, b] => (a.toNat - 48) * 10 + (b.toNat - 48)
  | _ => 0

theorem readTwo_twoDigits : ∀ n < 100, readTwo (twoDigits n).toList = n ∧
    (twoDigits n).toList.length = 2 ∧ Unbroken (twoDigits n) := by
  decide

theorem twoDigits_injective {m n : Nat} (small : m < 100) (small' : n < 100)
    (same : (twoDigits m).toList = (twoDigits n).toList) : m = n := by
  rw [← (readTwo_twoDigits m small).1, same, (readTwo_twoDigits n small').1]

def afterYear (t : Moment) : List Char :=
  '-' :: ((twoDigits t.date.month).toList ++ '-' :: ((twoDigits t.date.day).toList ++
    ' ' :: ((twoDigits t.hour).toList ++ ':' :: ((twoDigits t.minute).toList ++
      ':' :: (twoDigits t.second).toList))))

structure Fits (t : Moment) : Prop where
  month : t.date.month < 100
  day : t.date.day < 100
  hour : t.hour < 100
  minute : t.minute < 100
  second : t.second < 100

theorem fits_of_proper {t : Moment} (proper : t.Proper) : Fits t := by
  obtain ⟨⟨⟨_, month⟩, _, day⟩, hour, minute, second⟩ := proper
  have days := Calendar.daysInMonth_le t.date.year t.date.month
  exact ⟨by omega, by omega, by omega, by omega, by omega⟩

theorem fits_momentOfSeconds (seconds : Int) : Fits (momentOfSeconds seconds) :=
  fits_of_proper (Calendar.momentOfSeconds_proper seconds)

variable {t t' : Moment}

theorem toList_momentText (t : Moment) :
    (momentText t).toList = (toString t.date.year).toList ++ afterYear t := by
  simp [momentText, afterYear, List.append_assoc]

theorem length_afterYear (fits : Fits t) : (afterYear t).length = 15 := by
  have length {n : Nat} (small : n < 100) := (readTwo_twoDigits n small).2.1
  simp only [afterYear, List.length_cons, List.length_append, length fits.month, length fits.day,
    length fits.hour, length fits.minute, length fits.second]

theorem momentText_injective (fits : Fits t) (fits' : Fits t')
    (same : momentText t = momentText t') : t = t' := by
  have length {m n : Nat} (small : m < 100) (small' : n < 100) :
      (twoDigits m).toList.length = (twoDigits n).toList.length := by
    rw [(readTwo_twoDigits m small).2.1, (readTwo_twoDigits n small').2.1]
  have chars := congrArg String.toList same
  rw [toList_momentText, toList_momentText] at chars
  obtain ⟨years, rest⟩ := List.append_inj' chars
    ((length_afterYear fits).trans (length_afterYear fits').symm)
  have year : t.date.year = t'.date.year := Number.toString_injective years
  -- Each part is taken off the front with the mark that stands before it.
  obtain ⟨months, rest⟩ := List.append_inj (List.cons.inj rest).2 (length fits.month fits'.month)
  obtain ⟨days, rest⟩ := List.append_inj (List.cons.inj rest).2 (length fits.day fits'.day)
  obtain ⟨hours, rest⟩ := List.append_inj (List.cons.inj rest).2 (length fits.hour fits'.hour)
  obtain ⟨minutes, rest⟩ :=
    List.append_inj (List.cons.inj rest).2 (length fits.minute fits'.minute)
  have month := twoDigits_injective fits.month fits'.month months
  have day := twoDigits_injective fits.day fits'.day days
  have hour := twoDigits_injective fits.hour fits'.hour hours
  have minute := twoDigits_injective fits.minute fits'.minute minutes
  have second := twoDigits_injective fits.second fits'.second (List.cons.inj rest).2
  obtain ⟨⟨_, _, _⟩, _, _, _⟩ := t
  obtain ⟨⟨_, _, _⟩, _, _, _⟩ := t'
  simp_all

theorem length_momentText (fits : Fits t) : 15 ≤ (momentText t).length := by
  rw [← String.length_toList, toList_momentText, List.length_append, length_afterYear fits]
  omega

theorem seenText_injective {seconds seconds' : Int} (same : seenText seconds = seenText seconds') :
    seconds = seconds' := by
  have long (seconds : Int) : momentText (momentOfSeconds seconds) ≠ "-" := by
    intro short
    have length := length_momentText (fits_momentOfSeconds seconds)
    rw [short] at length
    exact absurd length (by decide)
  unfold seenText at same
  split at same <;> split at same
  next zero zero' => rw [zero, zero']
  next => exact absurd same.symm (long _)
  next => exact absurd same (long _)
  next =>
    have moments := momentText_injective (fits_momentOfSeconds _) (fits_momentOfSeconds _) same
    rw [← Calendar.secondsFromEpoch_momentOfSeconds seconds, moments,
      Calendar.secondsFromEpoch_momentOfSeconds]

theorem unbroken_toString (n : Int) : Unbroken (toString n) := by
  intro broken
  rcases Number.isDigit_of_mem_toString broken with sign | digit
  · exact absurd sign (by decide)
  · exact absurd digit (by decide)

theorem unbroken_momentText (fits : Fits t) : Unbroken (momentText t) := by
  have two {n : Nat} (small : n < 100) : Unbroken (twoDigits n) := (readTwo_twoDigits n small).2.2
  have mark : Unbroken "-" ∧ Unbroken " " ∧ Unbroken ":" := by decide
  simp only [momentText, unbroken_append, unbroken_toString, two fits.month, two fits.day,
    two fits.hour, two fits.minute, two fits.second, mark, and_self]

theorem unbroken_seenText (seconds : Int) : Unbroken (seenText seconds) := by
  unfold seenText
  split
  next => decide
  next => exact unbroken_momentText (fits_momentOfSeconds seconds)

end BackupConsole.Layout
