import BackupConsole.Mapping
import BackupConsole.Run

/-!
Reading a stream to its end. The items are handed on only if the stream ended cleanly, every item
could be converted and the call could be closed; else nothing of them is kept. The call is released
once, on every way out.
-/

set_option autoImplicit false

namespace BackupConsole

/-- How a call or a wait ends. `blocked` waits until it is cancelled, and so does `interrupted`
after the process got its signal. -/
inductive Ending
  | complete
  | fails (e : RpcFault)
  | breaks (kind : ErrorClass) (text : String)
  | blocked
  | interrupted
  deriving DecidableEq

namespace Ending

def act : Ending → Run Unit
  | complete => pure ()
  | fails e => .fail (.rpc e)
  | breaks kind text => .fail (.raised kind text)
  | blocked => ⟨.error .cancelled, [.waited]⟩
  | interrupted => ⟨.error .cancelled, [.signal]⟩

def finishes (finishesAtEnd : Bool) : Ending → Bool
  | complete => finishesAtEnd
  | fails _ => true
  | breaks _ _ => true
  | blocked => false
  | interrupted => false

end Ending

/-- How long a wait is kept up. A limit that is no number has passed whenever it is looked at, which
is first done after one turn of the event loop. -/
inductive Patience
  | none
  | turn
  | limited
  | endless
  deriving DecidableEq, Repr

namespace Patience

def ofSeconds (timeout : Float) : Patience :=
  if timeout ≤ 0.0 then none
  else if 0.0 < timeout then
    if timeout < Number.infinity then limited else endless
  -- Only what is no number is left.
  else turn

def outlasts (p : Patience) (prompt : Bool) (ending : Ending) : Bool :=
  match p with
  | none => false
  | turn => prompt && ending != .blocked
  | limited => ending != .blocked
  | endless => true

end Patience

/-- A stream as the other side plays it: its items, its ending, and how its call behaves when it
is closed. -/
structure Script (α : Type) where
  items : List α
  ending : Ending := .complete
  finishesAtEnd : Bool := true
  -- The call never says that it is over.
  staysOpen : Bool := false
  -- Cancelling the call fails with this text.
  cancelFault : Option String := none
  -- All of it is there within one turn of the event loop.
  prompt : Bool := true

namespace Stream

variable {α β κ ν : Type}

def logger : String := "backupctl.client.collector"

def receive (convert : α → Except Failure β) (ending : Ending) : List α → Run (List β)
  | [] => do
    Run.emit .read
    ending.act
    return []
  | item :: rest => do
    Run.emit .read
    let b ← Run.ofExcept (convert item)
    let bs ← receive convert ending rest
    return b :: bs

/-- Whether the call is over once receiving has stopped: an item that cannot be converted leaves
it open. -/
def isOver (convert : α → Except Failure β) (s : Script α) : Bool :=
  s.items.all (fun item => (convert item).isOk) && s.ending.finishes s.finishesAtEnd

def close (s : Script α) (ended : Bool) : Run Unit :=
  if ended && !s.staysOpen then pure ()
  else match s.cancelFault with
    | some text => ⟨.error (.raised .other text), [.cancel false]⟩
    | none => .emit (.cancel !ended)

def closeAfterFailure (operation : String) (s : Script α) (ended : Bool) : Run Unit :=
  (close s ended).recover fun
    | .raised _ text => some (Run.log .debug logger "Ignoring stream close failure"
        [("operation", .text operation), ("error", .text text)])
    | _ => none

def drain (operation : String) (convert : α → Except Failure β) (s : Script α) :
    Run (List β) :=
  let received := receive convert s.ending s.items
  let ended := isOver convert s
  match received.outcome with
  | .error e => do
    let failed : Run Unit := ⟨.ok (), received.events⟩
    failed
    -- The first failure is the one that is told.
    closeAfterFailure operation s ended
    match e with
    | .rpc fault => .fail (.refused (.streamFailed operation fault))
    | e => .fail e
  | .ok _ => do
    let items ← received
    (close s ended).recover fun
      | .raised _ text => some (.fail (.refused (.streamUnclosed operation text)))
      | _ => none
    Run.log .debug logger "Stream drained"
      [("operation", .text operation), ("items", .int items.length)]
    return items

/-- Inserts after items that do not sort after it, so that ties keep their order; fails where two
keys have no order. -/
def insertSorted (less? : κ → κ → Option Bool) (entry : κ × β) :
    List (κ × β) → Except Failure (List (κ × β))
  | [] => .ok [entry]
  | other :: rest =>
    match less? entry.1 other.1 with
    | none => .error .wrongType
    | some true => .ok (entry :: other :: rest)
    | some false => (insertSorted less? entry rest).map (other :: ·)

def sortEntries (less? : κ → κ → Option Bool) (entries : List (κ × β)) :
    Except Failure (List (κ × β)) :=
  entries.foldlM (fun sorted entry => insertSorted less? entry sorted) []

def sortByKey (less? : κ → κ → Option Bool) (key : β → Except Failure κ) (items : List β) :
    Except Failure (List β) := do
  let entries ← items.mapM fun item => do
    let k ← key item
    return (k, item)
  let sorted ← sortEntries less? entries
  return sorted.map (·.2)

def mappingOf (same : κ → κ → Bool) (key : β → Except Failure κ) (value : β → Except Failure ν)
    (isKey : κ → Bool) (items : List β) : Except Failure (List (κ × ν)) := do
  let pairs ← items.mapM fun item => do
    let k ← key item
    let v ← value item
    if isKey k then return (k, v) else .error .wrongType
  return Mapping.ofPairs same pairs

def seen (p : Patience) (s : Script α) : Script α :=
  if p = .turn && !s.prompt then { s with items := [], ending := .blocked } else s

/-- A drain that must end within `timeout` seconds. No time at all means that it never begins. A
time-out that the drain itself fails with is taken for the end of the time. -/
def within (timeout : Float) (operation : String) (drain : Script α → Run β) (s : Script α) :
    Run β :=
  let p := Patience.ofSeconds timeout
  let timedOut : Except Failure β := .error (.refused (.streamTimedOut operation))
  if p = .none then ⟨timedOut, []⟩
  else
    let s := seen p s
    let r := drain s
    match r.outcome with
    | .error (.raised .timeout _) => ⟨timedOut, r.events⟩
    -- Only a wait without end outlasts the time; it was cancelled to stop it.
    | .error .cancelled => if p.outlasts s.prompt s.ending then r else ⟨timedOut, r.events⟩
    | _ => r

end Stream

end BackupConsole
