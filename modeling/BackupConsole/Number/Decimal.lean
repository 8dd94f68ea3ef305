import BackupConsole.Number.Double
import BackupConsole.Text.Blank

set_option autoImplicit false

namespace BackupConsole.Number

def longestInteger : Nat := 4300

def digitsValue (digits : List Char) : Nat :=
  digits.foldl (fun n c => 10 * n + (c.toNat - '0'.toNat)) 0

def takeSign : List Char → Bool × List Char
  | '-' :: rest => (true, rest)
  | '+' :: rest => (false, rest)
  | cs => (false, cs)

def readExponent : List Char → Option Int
  | [] => some 0
  | c :: rest =>
    if c = 'e' || c = 'E' then
      let (negative, digits) := takeSign rest
      if digits.isEmpty || !digits.all Char.isDigit then none
      else some (if negative then -(digitsValue digits : Int) else digitsValue digits)
    else none

def isWord (word : String) (cs : List Char) : Bool :=
  cs.map Char.toLower == word.toList

def readReal (cs : List Char) : Option Float :=
  let (negative, body) := takeSign cs
  let signed (x : Float) : Float := if negative then -x else x
  if isWord "inf" body || isWord "infinity" body then some (signed infinity)
  else if isWord "nan" body then some notANumber
  else
    let whole := body.takeWhile Char.isDigit
    let rest := body.dropWhile Char.isDigit
    let (part, rest) := match rest with
      | '.' :: rest => (rest.takeWhile Char.isDigit, rest.dropWhile Char.isDigit)
      | rest => ([], rest)
    if whole.isEmpty && part.isEmpty then none
    else (readExponent rest).map fun e =>
      ofDecimal negative (digitsValue (whole ++ part)) (e - part.length)

def readInteger (cs : List Char) : Option Int :=
  let (negative, digits) := takeSign cs
  if digits.isEmpty || !digits.all Char.isDigit then none
  else some (if negative then -(digitsValue digits : Int) else digitsValue digits)

def hasPair (c : Char) : List Char → Bool
  | a :: b :: rest => (a == c && b == c) || hasPair c (b :: rest)
  | _ => false

-- Underscores may separate digits one at a time and stand at neither end.
def withoutUnderscores (cs : List Char) : Option (List Char) :=
  if cs.contains '_' && cs.head? != some '_' && cs.getLast? != some '_' && !hasPair '_' cs then
    some (cs.filter (· != '_'))
  else none

/-- Blanks around the number are dropped, but not around a number with underscores. -/
def readLoose {α : Type} (read : List Char → Option α) (s : String) : Option α :=
  match read (Text.trimBy Text.isSpace s.toList) with
  | some x => some x
  | none => (withoutUnderscores s.toList).bind read

end BackupConsole.Number
