import BackupConsole.Number.Shortest
import BackupConsole.Text.Json

set_option autoImplicit false

namespace BackupConsole

inductive Datum
  | null
  | bool (b : Bool)
  | int (n : Int)
  | real (x : Float)
  | text (s : String)
  | list (items : List Datum)
  | dict (entries : List (String × Datum))
  deriving Inhabited

namespace Datum

def ofOption (s : Option String) : Datum :=
  match s with
  | some s => .text s
  | none => .null

mutual

def quoted : Datum → String
  | null => "None"
  | bool b => if b then "True" else "False"
  | int n => toString n
  | real x => Number.plainText x
  | text s => Text.quote s
  | list items => "[" ++ ", ".intercalate (quotedItems items) ++ "]"
  | dict entries => "\x7b" ++ ", ".intercalate (quotedEntries entries) ++ "\x7d"

def quotedItems : List Datum → List String
  | [] => []
  | item :: rest => quoted item :: quotedItems rest

def quotedEntries : List (String × Datum) → List String
  | [] => []
  | (key, value) :: rest => (Text.quote key ++ ": " ++ quoted value) :: quotedEntries rest

end

def display : Datum → String
  | text s => s
  | d => quoted d

def jsonReal (x : Float) : String :=
  match Number.view x with
  | ⟨_, .nan⟩ => "NaN"
  | ⟨negative, .infinite⟩ => if negative then "-Infinity" else "Infinity"
  | _ => Number.plainText x

mutual

def json : Datum → String
  | null => "null"
  | bool b => if b then "true" else "false"
  | int n => toString n
  | real x => jsonReal x
  | text s => Text.jsonString s
  | list items => "[" ++ ", ".intercalate (jsonItems items) ++ "]"
  | dict entries => "\x7b" ++ ", ".intercalate (jsonEntries entries) ++ "\x7d"

def jsonItems : List Datum → List String
  | [] => []
  | item :: rest => json item :: jsonItems rest

def jsonEntries : List (String × Datum) → List String
  | [] => []
  | (key, value) :: rest => (Text.jsonString key ++ ": " ++ json value) :: jsonEntries rest

end

def truthy : Datum → Bool
  | null => false
  | bool b => b
  | int n => n != 0
  | real x => !(x == 0.0)
  | text s => !s.isEmpty
  | list items => !items.isEmpty
  | dict entries => !entries.isEmpty

def typeName : Datum → String
  | null => "None"
  | bool _ => "bool"
  | int _ => "int"
  | real _ => "float"
  | text _ => "str"
  | list _ => "list"
  | dict _ => "dict"

inductive Amount
  | finite (num : Int) (den : Nat)
  | infinite (negative : Bool)
  | undefined

def amount? : Datum → Option Amount
  | bool b => some (.finite (if b then 1 else 0) 1)
  | int n => some (.finite n 1)
  | real x =>
    match Number.fraction? x, Number.view x with
    | some (num, den), _ => some (.finite num den)
    | none, ⟨negative, .infinite⟩ => some (.infinite negative)
    | none, _ => some .undefined
  | _ => none

namespace Amount

def same : Amount → Amount → Bool
  | .finite a b, .finite c d => a * d == c * b
  | .infinite s, .infinite t => s == t
  | _, _ => false

def less : Amount → Amount → Bool
  | .finite a b, .finite c d => decide (a * d < c * b)
  | .infinite s, .finite _ _ => s
  | .finite _ _, .infinite t => !t
  | .infinite s, .infinite t => s && !t
  | _, _ => false

end Amount

mutual

def same : Datum → Datum → Bool
  | null, null => true
  | text s, text t => s == t
  | list xs, list ys => sameItems xs ys
  | dict xs, dict ys => xs.length == ys.length && sameEntries xs ys
  | x, y =>
    match x.amount?, y.amount? with
    | some a, some b => a.same b
    | _, _ => false

def sameItems : List Datum → List Datum → Bool
  | [], [] => true
  | x :: xs, y :: ys => same x y && sameItems xs ys
  | _, _ => false

def sameEntries : List (String × Datum) → List (String × Datum) → Bool
  | [], _ => true
  | (key, value) :: rest, ys =>
    (match ys.lookup key with
      | some other => same value other
      | none => false) && sameEntries rest ys

end

mutual

/-- Whether the first value sorts before the second; `none` where the two have no order. Lists
compare at their first difference. -/
def less? : Datum → Datum → Option Bool
  | text s, text t => some (decide (s < t))
  | list xs, list ys => lessItems? xs ys
  | x, y =>
    match x.amount?, y.amount? with
    | some a, some b => some (a.less b)
    | _, _ => none

def lessItems? : List Datum → List Datum → Option Bool
  | _, [] => some false
  | [], _ :: _ => some true
  | x :: xs, y :: ys => if same x y then lessItems? xs ys else less? x y

end

def isScalar : Datum → Bool
  | list _ => false
  | dict _ => false
  | _ => true

end Datum

end BackupConsole
