import BackupConsole.Calendar
import BackupConsole.Cause
import BackupConsole.Datum
import BackupConsole.Number.Double

set_option autoImplicit false

namespace BackupConsole.Layout

def twoDigits (n : Nat) : String :=
  if n < 10 then "0" ++ toString n else toString n

def momentText (t : Calendar.Moment) : String :=
  toString t.date.year ++ "-" ++ twoDigits t.date.month ++ "-" ++ twoDigits t.date.day ++ " " ++
    twoDigits t.hour ++ ":" ++ twoDigits t.minute ++ ":" ++ twoDigits t.second

def inRange (seconds : Int) : Bool :=
  decide (-62135596800 ≤ seconds ∧ seconds ≤ 253402300799)

def secondsText (seconds : Int) : Except Failure String :=
  if inRange seconds then .ok (momentText (Calendar.momentOfSeconds seconds))
  else .error .timestampRange

def timestamp (seconds : Int) : Except Failure String :=
  if seconds = 0 then .ok "-" else secondsText seconds

def wholeSeconds? (x : Float) : Option Int :=
  (Number.fraction? x).map fun (num, den) =>
    let micros : Int := Number.roundEven (num.natAbs * 1000000) den
    (if num < 0 then -micros else micros).fdiv 1000000

/-- Any value may stand where a time is due; only numbers are times. -/
def timestampOf (d : Datum) : Except Failure String :=
  if !d.truthy then .ok "-"
  else match d with
    -- What is not zero is here the number one.
    | .bool _ => secondsText 1
    | .int n => secondsText n
    | .real x => match wholeSeconds? x with
      | some n => secondsText n
      | none => .error .timestampRange
    | _ => .error .wrongType

end BackupConsole.Layout
