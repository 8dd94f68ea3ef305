import BackupConsole.Cause
import BackupConsole.Datum
import BackupConsole.Number.Decimal
import BackupConsole.Number.Rounded

set_option autoImplicit false

namespace BackupConsole.Placeholder

/-- Values that are left, or values by name together with one that waits to be shown. -/
inductive Values
  | inOrder (rest : List Datum)
  | byName (entries : List (String × Datum)) (waiting : Option Datum)

-- A single mapping that is not empty gives values by name, and is a value itself.
def Values.ofList : List Datum → Values
  | [.dict (entry :: entries)] => .byName (entry :: entries) (some (.dict (entry :: entries)))
  | args => .inOrder args

def Values.next : Values → Except Failure (Datum × Values)
  | .inOrder (v :: rest) => .ok (v, .inOrder rest)
  | .byName entries (some v) => .ok (v, .byName entries none)
  | _ => .error .wrongType

structure Style where
  left : Bool := false
  plus : Bool := false
  blank : Bool := false
  alternate : Bool := false
  zero : Bool := false
  width : Nat := 0
  places : Option Nat := none

def readFlags (s : Style) : List Char → Style × List Char
  | '-' :: rest => readFlags { s with left := true } rest
  | '+' :: rest => readFlags { s with plus := true } rest
  | ' ' :: rest => readFlags { s with blank := true } rest
  | '#' :: rest => readFlags { s with alternate := true } rest
  | '0' :: rest => readFlags { s with zero := true } rest
  | rest => (s, rest)

def readName (depth : Nat) : List Char → Option (List Char × List Char)
  | [] => none
  | c :: rest =>
    if c = ')' && depth = 0 then some ([], rest)
    else
      let depth := if c = '(' then depth + 1 else if c = ')' then depth - 1 else depth
      (readName depth rest).map fun (name, rest) => (c :: name, rest)

def choose (values : Values) : List Char → Except Failure (Values × List Char)
  | '(' :: rest =>
    match values with
    | .inOrder _ => .error .wrongType
    | .byName entries _ =>
      match readName 0 rest with
      | none => .error (.badValue none)
      | some (name, rest) =>
        match entries.lookup (String.ofList name) with
        | some v => .ok (.byName entries (some v), rest)
        | none => .error .missingKey
  | rest => .ok (values, rest)

def largestAmount : Int := 0x7fffffff

def readAmount (values : Values) (cs : List Char) :
    Except Failure (Option Int × Values × List Char) :=
  match cs with
  | '*' :: rest => do
    match ← values.next with
    | (.int n, values) =>
      if largestAmount < n || n < -largestAmount then .error .overflow
      else return (some n, values, rest)
    | (.bool b, values) => return (some (if b then 1 else 0), values, rest)
    | _ => .error .wrongType
  | _ =>
    let digits := cs.takeWhile Char.isDigit
    let rest := cs.dropWhile Char.isDigit
    let n : Int := Number.digitsValue digits
    if largestAmount < n then .error (.badValue none)
    else return (if digits.isEmpty then none else some n, values, rest)

def readWidth (s : Style) (values : Values) (cs : List Char) :
    Except Failure (Style × Values × List Char) := do
  let (amount, values, rest) ← readAmount values cs
  let n := amount.getD 0
  return ({ s with width := n.natAbs, left := s.left || decide (n < 0) }, values, rest)

def readPlaces (s : Style) (values : Values) :
    List Char → Except Failure (Style × Values × List Char)
  | '.' :: cs => do
    let (amount, values, rest) ← readAmount values cs
    return ({ s with places := some (amount.getD 0).toNat }, values, rest)
  | cs => .ok (s, values, cs)

def skipSize : List Char → List Char
  | c :: rest => if c = 'h' || c = 'l' || c = 'L' then rest else c :: rest
  | [] => []

def pad (s : Style) (zeros : Bool) (lead body : List Char) : List Char :=
  let missing := s.width - (lead.length + body.length)
  if s.left then lead ++ body ++ List.replicate missing ' '
  else if zeros then lead ++ List.replicate missing '0' ++ body
  else List.replicate missing ' ' ++ lead ++ body

def sign (s : Style) (negative : Bool) : List Char :=
  if negative then ['-'] else if s.plus then ['+'] else if s.blank then [' '] else []

def truncated (s : Style) (text : String) : List Char :=
  match s.places with
  | some n => text.toList.take n
  | none => text.toList

def escaped (text : String) : String :=
  String.ofList (text.toList.flatMap fun c =>
    if c.toNat < 128 then [c] else Text.escapeCode c.toNat)

def wholeOf (decimal : Bool) : Datum → Except Failure Int
  | .int n => .ok n
  | .bool b => .ok (if b then 1 else 0)
  | .real x =>
    if !decimal then .error .wrongType
    else match Number.truncate? x with
      | some n => .ok n
      | none => .error (if x.isNaN then .badValue none else .overflow)
  | _ => .error .wrongType

def realOf : Datum → Except Failure Float
  | .real x => .ok x
  | .bool b => .ok (if b then 1.0 else 0.0)
  | .int n =>
    match Number.ofInt? n with
    | some x => .ok x
    | none => .error .overflow
  | _ => .error .wrongType

def upperIf (upper : Bool) (cs : List Char) : List Char := if upper then cs.map Char.toUpper else cs

def writeWhole (s : Style) (base : Nat) (mark : List Char) (upper : Bool) (n : Int) : List Char :=
  let digits := Nat.toDigits base n.natAbs
  let digits := List.replicate (s.places.getD 0 - digits.length) '0' ++ digits
  let mark := if s.alternate then mark else []
  pad s s.zero (sign s (decide (n < 0)) ++ upperIf upper mark) (upperIf upper digits)

def writeReal (s : Style) (render : Nat → Float → String) (upper : Bool) (x : Float) : List Char :=
  match (render (s.places.getD 6) x).toList with
  | '-' :: body => pad s s.zero ['-'] (upperIf upper body)
  | body => pad s s.zero (sign s false) (upperIf upper body)

def writeCharacter (s : Style) : Datum → Except Failure (List Char)
  | .text t =>
    match t.toList with
    | [c] => .ok (pad s false [] [c])
    | _ => .error .wrongType
  | d =>
    match wholeOf false d with
    | .ok n =>
      if 0 ≤ n && n < 0x110000 then .ok (pad s false [] [Char.ofNat n.toNat]) else .error .overflow
    | .error e => .error e

def write (s : Style) (letter : Char) (v : Datum) : Except Failure (List Char) :=
  match letter with
  | 's' => .ok (pad s false [] (truncated s v.display))
  | 'r' => .ok (pad s false [] (truncated s v.quoted))
  | 'a' => .ok (pad s false [] (truncated s (escaped v.quoted)))
  | 'd' => (wholeOf true v).map (writeWhole s 10 [] false)
  | 'i' => (wholeOf true v).map (writeWhole s 10 [] false)
  | 'u' => (wholeOf true v).map (writeWhole s 10 [] false)
  | 'o' => (wholeOf false v).map (writeWhole s 8 ['0', 'o'] false)
  | 'x' => (wholeOf false v).map (writeWhole s 16 ['0', 'x'] false)
  | 'X' => (wholeOf false v).map (writeWhole s 16 ['0', 'x'] true)
  | 'f' => (realOf v).map (writeReal s Number.fixedText false)
  | 'F' => (realOf v).map (writeReal s Number.fixedText true)
  | 'e' => (realOf v).map (writeReal s Number.exponentText false)
  | 'E' => (realOf v).map (writeReal s Number.exponentText true)
  | 'g' => (realOf v).map (writeReal s Number.generalText false)
  | 'G' => (realOf v).map (writeReal s Number.generalText true)
  | 'c' => writeCharacter s v
  | _ => .error (.badValue none)

-- What the placeholder after a percent sign shows, with the values and the text left over.
def readPlaceholder (values : Values) (cs : List Char) :
    Except Failure (List Char × Values × List Char) := do
  let (values, cs) ← choose values cs
  let (s, cs) := readFlags {} cs
  let (s, values, cs) ← readWidth s values cs
  let (s, values, cs) ← readPlaces s values cs
  match skipSize cs with
  | [] => .error (.badValue none)
  | letter :: rest =>
    let (v, values) ← values.next
    return (← write s letter v, values, rest)

/-- Fills in the placeholders; two percent signs in a row show one. A placeholder takes at least
one character, which bounds their number. -/
def fillFrom : Nat → Values → List Char → Except Failure (List Char)
  | _, .inOrder (_ :: _), [] => .error .wrongType
  | _, _, [] => .ok []
  | 0, _, cs => .ok cs
  | fuel + 1, values, '%' :: '%' :: cs => do return '%' :: (← fillFrom fuel values cs)
  | fuel + 1, values, '%' :: cs => do
    let (shown, values, rest) ← readPlaceholder values cs
    return shown ++ (← fillFrom fuel values rest)
  | fuel + 1, values, c :: cs => do return c :: (← fillFrom fuel values cs)

def fill (template : String) (args : List Datum) : Except Failure String :=
  if args.isEmpty then .ok template
  else (fillFrom template.length (Values.ofList args) template.toList).map String.ofList

end BackupConsole.Placeholder
