import BackupConsole.Given
import BackupConsole.Text.Digits
import BackupConsole.Text.Lowercase
import BackupConsole.Yaml.Node

set_option autoImplicit false

namespace BackupConsole.Yaml

def digitValue? (base : Nat) (c : Char) : Option Nat :=
  let n :=
    if c.isDigit then some (c.toNat - '0'.toNat)
    else if 'a' ≤ c ∧ c ≤ 'z' then some (c.toNat - 'a'.toNat + 10)
    else if 'A' ≤ c ∧ c ≤ 'Z' then some (c.toNat - 'A'.toNat + 10)
    else none
  n.bind fun n => if n < base then some n else none

def plainNumber (cs : List Char) : List Char :=
  Text.trimBy Text.isSpace (cs.map Text.asciiDigit)

/-- Digits in a base after an optional sign and, for bases other than ten, an optional mark of the
base. The length of decimal numbers is limited. -/
def integerIn (base : Nat) (cs : List Char) : Except Defect Int :=
  let (negative, body) := Number.takeSign (plainNumber cs)
  let mark := [(2, ['b', 'B']), (8, ['o', 'O']), (16, ['x', 'X'])].lookup base
  let digits := match mark, body with
    | some mark, '0' :: c :: rest => if mark.contains c then rest else body
    | _, _ => body
  let value := digits.foldl (fun n c => match n, digitValue? base c with
    | some n, some d => some (n * base + d)
    | _, _ => none) (some 0)
  match value with
  | some n =>
    if digits.isEmpty || (base = 10 && decide (Number.longestInteger < digits.length)) then
      .error .unreadable
    else .ok (if negative then -(n : Int) else n)
  | none => .error .unreadable

def sixties {α : Type} (parts : List α) (add : Int → α → Int) : Int :=
  parts.foldl (fun total part => add (total * 60) part) 0

def intValue (cs : List Char) : Except Defect Int := do
  let cs := cs.filter (· != '_')
  let (negative, body) := Number.takeSign cs
  let signed (n : Int) : Int := if negative then -n else n
  match cs, body with
  | [], _ => .error .emptyNumber
  | _, [] => .error .emptyNumber
  | _, ['0'] => return 0
  | _, '0' :: 'b' :: rest => return signed (← integerIn 2 rest)
  | _, '0' :: 'x' :: rest => return signed (← integerIn 16 rest)
  | _, '0' :: rest => return signed (← integerIn 8 ('0' :: rest))
  | _, body =>
    if body.contains ':' then
      let parts ← (colonParts body).mapM (integerIn 10)
      return signed (sixties parts (· + ·))
    else return signed (← integerIn 10 body)

def realPart (cs : List Char) : Except Defect Float :=
  match Number.readReal (plainNumber cs) with
  | some x => .ok x
  | none => .error .unreadable

/-- Adds one more part of a real in sixties, whose weight must be a double. -/
def addSixtieth (sum : Float × Int) (x : Float) : Except Defect (Float × Int) :=
  match Number.ofInt? sum.2 with
  | some weight => .ok (sum.1 + x * weight, sum.2 * 60)
  | none => .error .overflow

def floatValue (cs : List Char) : Except Defect Float := do
  let cs := (cs.filter (· != '_')).map Char.toLower
  let (negative, body) := Number.takeSign cs
  let signed (x : Float) : Float := if negative then -x else x
  if cs.isEmpty then .error .emptyNumber
  else if body = ".inf".toList then return signed Number.infinity
  else if body = ".nan".toList then return Number.notANumber
  else if body.contains ':' then
    let parts ← (colonParts body).mapM realPart
    let (total, _) ← parts.reverse.foldlM addSixtieth (0.0, 1)
    return signed total
  else return signed (← realPart body)

def boolValue (cs : List Char) : Except Defect Bool :=
  match boolWords.lookup (Text.lower (String.ofList cs)) with
  | some b => .ok b
  | none => .error .unknownWord

private def sextet? (c : Char) : Option Nat :=
  if 'A' ≤ c ∧ c ≤ 'Z' then some (c.toNat - 'A'.toNat)
  else if 'a' ≤ c ∧ c ≤ 'z' then some (c.toNat - 'a'.toNat + 26)
  else if c.isDigit then some (c.toNat - '0'.toNat + 52)
  else if c = '+' then some 62
  else if c = '/' then some 63
  else none

-- Bytes in base 64. Other characters are skipped; padding ends the data once it completes a
-- group of four, and data must not end inside a group.
def base64From (filled carry pads : Nat) : List Char → Option (List UInt8)
  | [] => if filled = 0 then some [] else none
  | '=' :: rest =>
    if 2 ≤ filled && 4 ≤ filled + pads + 1 then some []
    else base64From filled carry (if 2 ≤ filled then pads + 1 else pads) rest
  | c :: rest =>
    match sextet? c with
    | none => base64From filled carry pads rest
    | some n =>
      let group := carry * 64 + n
      match filled with
      | 0 => base64From 1 n 0 rest
      | 1 => (base64From 2 (group % 16) 0 rest).map (UInt8.ofNat (group / 16) :: ·)
      | 2 => (base64From 3 (group % 4) 0 rest).map (UInt8.ofNat (group / 4) :: ·)
      | _ => (base64From 0 0 0 rest).map (UInt8.ofNat group :: ·)

def binaryValue (cs : List Char) : Except Defect (List UInt8) :=
  if cs.all fun c => c.toNat < 0x80 then
    match base64From 0 0 0 cs with
    | some bytes => .ok bytes
    | none => .error .malformed
  else .error .malformed

def microseconds (fraction : List Char) : Nat :=
  let digits := fraction.take 6
  Number.digitsValue (digits ++ List.replicate (6 - digits.length) '0')

def timeValue (cs : List Char) : Except Defect Given :=
  let cs := if cs.getLast? = some '\n' then cs.dropLast else cs
  match readTime cs with
  | none => .error .notATime
  | some t =>
    let date : Calendar.Date := ⟨t.year, t.month, t.day⟩
    match t.time with
    | none => if date.valid then .ok (.date date) else .error .unreadable
    | some (hour, minute, second) =>
      let zoned := match t.offset with
        | some offset => decide (-86400 < offset ∧ offset < 86400)
        | none => true
      if date.valid && hour < 24 && minute < 60 && second < 60 && zoned then
        .ok (.stamp ⟨⟨date, hour, minute, second⟩, microseconds t.fraction, t.offset⟩)
      else .error .unreadable

def strValue (codes : List Nat) : Given :=
  if codes.all fun n => n.isValidChar then .text (String.ofList (codes.map Char.ofNat))
  else .broken codes

def scalarValue (tag : Tag) (codes : List Nat) : Except Defect Given :=
  let cs := charsOf codes
  match tag with
  | .null => .ok .null
  | .bool => (boolValue cs).map .bool
  | .int => (intValue cs).map .int
  | .float => (floatValue cs).map .real
  | .binary => (binaryValue cs).map .bytes
  | .timestamp => timeValue cs
  | .str => .ok (strValue codes)
  | _ => .error .malformed

end BackupConsole.Yaml
