import BackupConsole.Calendar

set_option autoImplicit false

namespace BackupConsole.Yaml

inductive Tag
  | null
  | bool
  | int
  | float
  | binary
  | timestamp
  | omap
  | pairs
  | set
  | str
  | seq
  | map
  | merge
  | value
  | other
  deriving DecidableEq, Repr

def Tag.ofUri (uri : String) : Tag :=
  let known := [("null", Tag.null), ("bool", .bool), ("int", .int), ("float", .float),
    ("binary", .binary), ("timestamp", .timestamp), ("omap", .omap), ("pairs", .pairs),
    ("set", .set), ("str", .str), ("seq", .seq), ("map", .map), ("merge", .merge),
    ("value", .value)]
  match known.find? fun (name, _) => "tag:yaml.org,2002:" ++ name == uri with
  | some (_, tag) => tag
  | none => .other

def isDigitOrLine (c : Char) : Bool := c.isDigit || c = '_'

def dropSign : List Char → List Char
  | '-' :: rest => rest
  | '+' :: rest => rest
  | cs => cs

def isSixtieth : List Char → Bool
  | [a] => a.isDigit
  | [a, b] => '0' ≤ a && a ≤ '5' && b.isDigit
  | _ => false

def colonParts : List Char → List (List Char)
  | [] => [[]]
  | ':' :: rest => [] :: colonParts rest
  | c :: rest => match colonParts rest with
    | [] => [[c]]
    | part :: parts => (c :: part) :: parts

def isIntText (cs : List Char) : Bool :=
  match dropSign cs with
  | ['0'] => true
  | '0' :: 'b' :: rest => !rest.isEmpty && rest.all fun c => c = '0' || c = '1' || c = '_'
  | '0' :: 'x' :: rest => !rest.isEmpty &&
      rest.all fun c => c.isDigit || ('a' ≤ c && c ≤ 'f') || ('A' ≤ c && c ≤ 'F') || c = '_'
  | '0' :: rest => rest.all fun c => ('0' ≤ c && c ≤ '7') || c = '_'
  | c :: rest =>
    c.isDigit && match colonParts rest with
      | first :: parts => first.all isDigitOrLine && parts.all isSixtieth
      | [] => false
  | [] => false

def isExponent : List Char → Bool
  | [] => true
  | e :: sign :: rest =>
    (e = 'e' || e = 'E') && (sign = '-' || sign = '+') && !rest.isEmpty && rest.all Char.isDigit
  | _ => false

def isFloatText (cs : List Char) : Bool :=
  let unsigned := dropSign cs
  let words (ws : List String) (cs : List Char) := ws.contains (String.ofList cs)
  let whole := unsigned.takeWhile isDigitOrLine
  let afterPoint (cs : List Char) := isExponent (cs.dropWhile isDigitOrLine)
  let startsDigit (cs : List Char) := match cs with
    | c :: _ => c.isDigit
    | [] => false
  let signless := match cs with
    | '.' :: rest => (startsDigit rest && afterPoint rest) || words ["nan", "NaN", "NAN"] rest
    | _ => false
  let pointed := match unsigned.dropWhile isDigitOrLine with
    | '.' :: rest => startsDigit whole && afterPoint rest
    | _ => false
  let infinite := match unsigned with
    | '.' :: rest => words ["inf", "Inf", "INF"] rest
    | _ => false
  let sixty :=
    let before := unsigned.takeWhile (· != '.')
    let after := unsigned.dropWhile (· != '.')
    match colonParts before, after with
    | first :: part :: parts, '.' :: rest =>
      startsDigit first && first.all isDigitOrLine && (part :: parts).all isSixtieth
        && rest.all isDigitOrLine
    | _, _ => false
  signless || pointed || infinite || sixty

structure TimeText where
  year : Nat
  month : Nat
  day : Nat
  time : Option (Nat × Nat × Nat) := none
  fraction : List Char := []
  offset : Option Int := none
  -- Month and day are written with two digits each.
  padded : Bool

private def number (cs : List Char) : Nat :=
  cs.foldl (fun n c => 10 * n + (c.toNat - '0'.toNat)) 0

private def takeDigits (least most : Nat) (cs : List Char) : Option (List Char × List Char) :=
  let digits := (cs.take most).takeWhile Char.isDigit
  if least ≤ digits.length then some (digits, cs.drop digits.length) else none

private def takeChar (c : Char) : List Char → Option (List Char)
  | x :: rest => if x = c then some rest else none
  | [] => none

private def skipBlanks (cs : List Char) : List Char := cs.dropWhile fun c => c = ' ' || c = '\t'

private def readZone (cs : List Char) : Option (Option Int) :=
  match skipBlanks cs with
  | [] => if cs.isEmpty then some none else none
  | ['Z'] => some (some 0)
  | sign :: rest =>
    if sign = '+' || sign = '-' then do
      let (hours, rest) ← takeDigits 1 2 rest
      let minutes ← match rest with
        | [] => some []
        | _ => do
          let rest ← takeChar ':' rest
          let (minutes, rest) ← takeDigits 2 2 rest
          if rest.isEmpty then some minutes else none
      let offset : Int := (number hours * 3600 + number minutes * 60 : Nat)
      return some (if sign = '-' then -offset else offset)
    else none

def readTime (cs : List Char) : Option TimeText := do
  let (year, rest) ← takeDigits 4 4 cs
  let rest ← takeChar '-' rest
  let (month, rest) ← takeDigits 1 2 rest
  let rest ← takeChar '-' rest
  let (day, rest) ← takeDigits 1 2 rest
  let date : TimeText :=
    { year := number year, month := number month, day := number day
      padded := month.length = 2 && day.length = 2 }
  match rest with
  | [] => return date
  | c :: after =>
    let clock ← if c = 'T' || c = 't' then some after
      else if c = ' ' || c = '\t' then some (skipBlanks after)
      else none
    let (hour, rest) ← takeDigits 1 2 clock
    let rest ← takeChar ':' rest
    let (minute, rest) ← takeDigits 2 2 rest
    let rest ← takeChar ':' rest
    let (second, rest) ← takeDigits 2 2 rest
    let (fraction, rest) := match rest with
      | '.' :: rest => (rest.takeWhile Char.isDigit, rest.dropWhile Char.isDigit)
      | rest => ([], rest)
    let offset ← readZone rest
    return { date with
      time := some (number hour, number minute, number second)
      fraction := fraction
      offset := offset }

def isTimeText (cs : List Char) : Bool :=
  match readTime cs with
  | some t => t.time.isSome || t.padded
  | none => false

def boolWords : List (String × Bool) :=
  [("yes", true), ("no", false), ("true", true), ("false", false), ("on", true), ("off", false)]

def isCaseOf (word : String) (cs : List Char) : Bool :=
  let capital := word.toList.map Char.toUpper
  cs == word.toList || cs == capital || cs == capital.take 1 ++ word.toList.drop 1

def Tag.ofWord (cs : List Char) : Tag :=
  if boolWords.any fun (word, _) => isCaseOf word cs then .bool
  else if isFloatText cs then .float
  else if isIntText cs then .int
  else if cs == ['<', '<'] then .merge
  else if cs.isEmpty || cs == ['~'] || isCaseOf "null" cs then .null
  else if isTimeText cs then .timestamp
  else if cs == ['='] then .value
  else if cs == ['!'] || cs == ['&'] || cs == ['*'] then .other
  else .str

def Tag.ofPlain (cs : List Char) : Tag :=
  if cs == ['\n'] then .str
  else if cs.getLast? = some '\n' then .ofWord cs.dropLast
  else .ofWord cs

end BackupConsole.Yaml
