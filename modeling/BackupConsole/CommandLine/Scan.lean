import BackupConsole.CommandLine.Switch

set_option autoImplicit false

namespace BackupConsole.CommandLine

structure Piece where
  typed : List Typed := []
  pending : Option Switch := none
  problem : Option UsageError := none

def splitValue (cs : List Char) : List Char × Option (List Char) :=
  (cs.takeWhile (· != '='), (cs.dropWhile (· != '=')).tail?)

theorem splitValue_join (cs : List Char) :
    (splitValue cs).1 ++ (match (splitValue cs).2 with
      | some v => '=' :: v
      | none => []) = cs := by
  induction cs with
  | nil => rfl
  | cons c rest ih =>
    by_cases h : c = '='
    · simp [splitValue, h]
    · simp only [splitValue] at ih ⊢
      simp [h, ih]

def longPiece? (switches : List Switch) (arg : List Char) : Option Piece :=
  let (name, value) := splitValue arg
  (switches.find? fun s => s.isLong && s.name == String.ofList name).map fun s =>
    match s.intake.takesValue, value with
    | true, some v => { typed := [⟨s, String.ofList v⟩] }
    | true, none => { pending := some s }
    | false, some _ => { problem := some (.takesNoValue s.name) }
    | false, none => { typed := [⟨s, ""⟩] }

-- Short switches one after the other; the first that takes a value takes the rest.
def cluster (switches : List Switch) : List Char → Piece
  | [] => {}
  | c :: rest =>
    let name := String.ofList ['-', c]
    match switches.find? fun s => s.name == name with
    | none => { problem := some (.noSuchOption name) }
    | some s =>
      if s.intake.takesValue then
        if rest.isEmpty then { pending := some s } else { typed := [⟨s, String.ofList rest⟩] }
      else
        let after := cluster switches rest
        { after with typed := ⟨s, ""⟩ :: after.typed }

def piece (switches : List Switch) (arg : List Char) : Piece :=
  match longPiece? switches arg with
  | some p => p
  | none =>
    if ['-', '-'].isPrefixOf arg then
      { problem := some (.noSuchOption (String.ofList (splitValue arg).1)) }
    else cluster switches arg.tail

def isSwitch (arg : String) : Bool :=
  match arg.toList with
  | '-' :: _ :: _ => true
  | _ => false

def endOfSwitches : String := "--"

structure Scan where
  typed : List Typed := []
  words : List String := []
  problem : Option UsageError := none

def Scan.after (typed : List Typed) (s : Scan) : Scan := { s with typed := typed ++ s.typed }

def scan (switches : List Switch) (mixed : Bool) : List String → Scan
  | [] => {}
  | arg :: rest =>
    if arg = endOfSwitches then { words := rest }
    else if isSwitch arg then
      let p := piece switches arg.toList
      match p.problem, p.pending with
      | some e, _ => { typed := p.typed, problem := some e }
      | none, none => (scan switches mixed rest).after p.typed
      | none, some s => match rest with
        | [] => { typed := p.typed, problem := some (.needsValue s.name) }
        | value :: rest => (scan switches mixed rest).after (p.typed ++ [⟨s, value⟩])
    else if mixed then
      let s := scan switches mixed rest
      { s with words := arg :: s.words }
    else { words := arg :: rest }

namespace Scan

-- For each slot the switch that was typed last, in the order in which slots were first typed.
def latest (s : Scan) : List (Slot × Typed) :=
  Mapping.ofPairs (· == ·) (s.typed.map fun t => (t.switch.slot, t))

def values (s : Scan) : Except UsageError (List (Slot × Given)) :=
  s.latest.mapM fun (slot, t) => t.value.map fun v => (slot, v)

def readableValues (s : Scan) : List (Slot × Given) :=
  s.latest.map fun (slot, t) => (slot, match t.value with
    | .ok v => v
    | .error _ => .null)

end Scan

end BackupConsole.CommandLine
