import BackupConsole.Calendar
import BackupConsole.Fault
import BackupConsole.Number.Decimal
import BackupConsole.Number.Shortest

set_option autoImplicit false

namespace BackupConsole

inductive Collection
  | list
  | dict
  | set
  deriving DecidableEq, Repr

structure Stamp where
  moment : Calendar.Moment
  micros : Nat
  offset : Option Int
  deriving DecidableEq, Repr

/-- `broken` is text with lone surrogates, given by its code points. -/
inductive Given
  | null
  | bool (b : Bool)
  | int (n : Int)
  | real (x : Float)
  | text (s : String)
  | broken (codes : List Nat)
  | bytes (bs : List UInt8)
  | date (d : Calendar.Date)
  | stamp (t : Stamp)
  | collection (kind : Collection)
  deriving DecidableEq

namespace Given

def typeName : Given → String
  | null => "NoneType"
  | bool _ => "bool"
  | int _ => "int"
  | real _ => "float"
  | text _ => "str"
  | broken _ => "str"
  | bytes _ => "bytes"
  | date _ => "date"
  | stamp _ => "datetime"
  | collection .list => "list"
  | collection .dict => "dict"
  | collection .set => "set"

def utf8? (bs : List UInt8) : Option String := String.fromUTF8? ⟨bs.toArray⟩

def toText : Given → Except Flaw String
  | text s => .ok s
  | bytes bs => match utf8? bs with
    | some s => .ok s
    | none => .error .brokenText
  | broken _ => .error .brokenText
  | _ => .error .notText

-- The words for true and false, in any case and without blanks around them.
def boolOfWord (s : String) : Except Flaw Bool :=
  let word := String.ofList (s.toList.map Char.toLower)
  if ["1", "t", "y", "true", "yes", "on"].contains word then .ok true
  else if ["0", "f", "n", "false", "no", "off"].contains word then .ok false
  else .error .unreadableBool

def fitsInt64 (n : Int) : Bool := decide (-0x8000000000000000 ≤ n ∧ n < 0x8000000000000000)

def toBool : Given → Except Flaw Bool
  | bool b => .ok b
  | int n =>
    if n = 0 then .ok false
    else if n = 1 then .ok true
    else if fitsInt64 n then .error .unreadableBool
    else .error .notBool
  | real x => if x == 0.0 then .ok false else if x == 1.0 then .ok true else .error .notBool
  | text s => boolOfWord s
  | bytes bs => match utf8? bs with
    | some s => boolOfWord s
    | none => .error .unreadableBool
  | broken _ => .error .brokenText
  | _ => .error .notBool

def realOfWord (s : String) : Except Flaw Float :=
  match Number.readLoose Number.readReal s with
  | some x => .ok x
  | none => .error .unreadableReal

def toReal : Given → Except Flaw Float
  | real x => .ok x
  | bool b => .ok (if b then 1.0 else 0.0)
  | int n => match Number.ofInt? n with
    | some x => .ok x
    | none => .error .notReal
  | text s => realOfWord s
  | bytes bs => match utf8? bs with
    | some s => realOfWord s
    | none => .error .unreadableReal
  | broken _ => .error .brokenText
  | _ => .error .notReal

-- An integer may end in a point and zeros.
def integerOfWord (s : String) : Except Flaw Int :=
  let cs := Text.trimBy Text.isSpace s.toList
  let whole := cs.takeWhile (· != '.')
  let part := (cs.dropWhile (· != '.')).drop 1
  let digits := if part.all (· == '0') then whole else cs
  let read (cs : List Char) := (Number.readInteger cs).or
    ((Number.withoutUnderscores cs).bind Number.readInteger)
  match read digits with
  | some n => .ok n
  | none => .error .unreadableInteger

def toInteger : Given → Except Flaw Int
  | int n => .ok n
  | bool b => .ok (if b then 1 else 0)
  | real x =>
    match Number.truncate? x with
    | none => .error .notFinite
    | some n =>
      if !Number.isWhole x then .error .notWhole
      else if decide (-0x8000000000000000 < n ∧ n < 0x8000000000000000) then .ok n
      else .error .tooLarge
  | text s => integerOfWord s
  | bytes bs => match utf8? bs with
    | some s => integerOfWord s
    | none => .error .unreadableInteger
  | broken _ => .error .unreadableInteger
  | _ => .error .notInteger

def zoneText (offset : Int) : String :=
  if offset = 0 then "datetime.timezone.utc"
  else
    let days := offset.fdiv 86400
    let seconds := offset - days * 86400
    let parts := (if days = 0 then [] else ["days=" ++ toString days]) ++
      (if seconds = 0 then [] else ["seconds=" ++ toString seconds])
    "datetime.timezone(datetime.timedelta(" ++ ", ".intercalate parts ++ "))"

def stampText (t : Stamp) : String :=
  let m := t.moment
  let fine : List Nat :=
    if t.micros ≠ 0 then [m.second, t.micros] else if m.second ≠ 0 then [m.second] else []
  let numbers := toString m.date.year ::
    (([m.date.month, m.date.day, m.hour, m.minute] ++ fine).map toString)
  let zone := match t.offset with
    | none => []
    | some offset => ["tzinfo=" ++ zoneText offset]
  "datetime.datetime(" ++ ", ".intercalate (numbers ++ zone) ++ ")"

def keyText : Given → String
  | null => "None"
  | bool b => if b then "1" else "0"
  | int n => toString n
  | real x => Number.plainText x
  | text s => s
  | broken codes => String.ofList (codes.map Char.ofNat)
  | bytes bs => Text.quoteBytes bs
  | date d => "datetime.date(" ++ ", ".intercalate
      [toString d.year, toString d.month, toString d.day] ++ ")"
  | stamp t => stampText t
  | collection _ => ""

def stampInstant (t : Stamp) : Int :=
  (Calendar.secondsFromEpoch t.moment - t.offset.getD 0) * 1000000 + t.micros

/-- Whether two keys of one mapping are the same: numbers by value, points in time by instant. -/
def sameKey (a b : Given) : Bool :=
  let number? : Given → Option (Int × Nat)
    | bool b => some (if b then 1 else 0, 1)
    | int n => some (n, 1)
    | real x => Number.fraction? x
    | _ => none
  match a, b with
  | stamp s, stamp t => s.offset.isSome == t.offset.isSome && stampInstant s == stampInstant t
  | real x, real y => x == y
  | a, b =>
    match number? a, number? b with
    | some (m, d), some (n, e) => m * e == n * d
    | _, _ => decide (a = b)

end Given

end BackupConsole
