import BackupConsole.Cause
import BackupConsole.Datum

/-!
Runs: what a step comes to, and everything it did on the way, in order. Whatever the program tells
about a run, its log, its output, its calls, is read off the events.
-/

set_option autoImplicit false

namespace BackupConsole

inductive Level
  | debug
  | info
  | warning
  | error
  | critical
  deriving DecidableEq, Repr

namespace Level

def name : Level → String
  | debug => "debug"
  | info => "info"
  | warning => "warning"
  | error => "error"
  | critical => "critical"

def rank : Level → Nat
  | debug => 10
  | info => 20
  | warning => 30
  | error => 40
  | critical => 50

def all : List Level := [debug, info, warning, error, critical]

def ofName? (s : String) : Option Level := all.find? fun l => l.name == s

end Level

structure LogRecord where
  level : Level
  logger : String
  event : String
  fields : List (String × Datum) := []

abbrev Metadata := List (String × String)

inductive Compression
  | gzip
  | deflate
  deriving DecidableEq, Repr

inductive CallShape
  | unary
  | stream
  deriving DecidableEq, Repr

structure ChannelParams where
  target : String
  compression : Option Compression
  roots : Option (List UInt8)
  shapes : List CallShape
  deriving DecidableEq

structure SentCall where
  method : String
  metadata : Metadata
  request : List UInt8
  deriving DecidableEq

/-- `cancel` tells whether the call was released; `waited` is a wait that only a cancellation
ended. -/
inductive Event
  | log (record : LogRecord)
  | opened (params : ChannelParams)
  | closed
  | sent (call : SentCall)
  | read
  | cancel (released : Bool)
  | signal
  | waited
  | wrote (text : String)
  | mark (name : String)

structure Run (α : Type) where
  outcome : Except Failure α
  events : List Event

namespace Run

variable {α β : Type}

protected def pure (a : α) : Run α := ⟨.ok a, []⟩

protected def bind (r : Run α) (f : α → Run β) : Run β :=
  match r.outcome with
  | .ok a => ⟨(f a).outcome, r.events ++ (f a).events⟩
  | .error e => ⟨.error e, r.events⟩

instance : Monad Run where
  pure := Run.pure
  bind := Run.bind

theorem pure_def (a : α) : (pure a : Run α) = ⟨.ok a, []⟩ := rfl

theorem map_id (r : Run α) : id <$> r = r := by
  obtain ⟨o, es⟩ := r
  cases o <;> simp [Functor.map, Run.bind, Run.pure]

theorem bind_assoc {γ : Type} (r : Run α) (f : α → Run β) (g : β → Run γ) :
    r >>= f >>= g = r >>= fun a => f a >>= g := by
  obtain ⟨o, es⟩ := r
  cases o with
  | error e => simp [bind, Run.bind]
  | ok a =>
    simp only [bind, Run.bind]
    cases (f a).outcome <;> simp [List.append_assoc]

instance : LawfulMonad Run :=
  LawfulMonad.mk' Run map_id (fun a f => by simp [bind, pure, Run.bind, Run.pure]) bind_assoc

def fail (e : Failure) : Run α := ⟨.error e, []⟩

def emit (e : Event) : Run Unit := ⟨.ok (), [e]⟩

def ofExcept (r : Except Failure α) : Run α := ⟨r, []⟩

def ofCause (r : Except Cause α) : Run α := ⟨r.mapError .refused, []⟩

def log (level : Level) (logger event : String) (fields : List (String × Datum) := []) :
    Run Unit :=
  emit (.log { level, logger, event, fields })

def recover (r : Run α) (handle : Failure → Option (Run α)) : Run α :=
  match r.outcome with
  | .ok _ => r
  | .error e => match handle e with
    | some next => ⟨next.outcome, r.events ++ next.events⟩
    | none => r

def andFinally (r : Run α) (e : Event) : Run α := { r with events := r.events ++ [e] }

def mapEvents (f : Event → Event) (r : Run α) : Run α := { r with events := r.events.map f }

def logs (r : Run α) : List LogRecord := r.events.filterMap fun
  | .log record => some record
  | _ => none

def calls (r : Run α) : List SentCall := r.events.filterMap fun
  | .sent call => some call
  | _ => none

def channels (r : Run α) : List ChannelParams := r.events.filterMap fun
  | .opened params => some params
  | _ => none

def closings (r : Run α) : Nat := r.events.countP fun
  | .closed => true
  | _ => false

def reads (r : Run α) : Nat := r.events.countP fun
  | .read => true
  | _ => false

def releases (r : Run α) : Nat := r.events.countP fun
  | .cancel released => released
  | _ => false

def signals (r : Run α) : Nat := r.events.countP fun
  | .signal => true
  | _ => false

def output (r : Run α) : String := String.join (r.events.filterMap fun
  | .wrote text => some text
  | _ => none)

def marks (r : Run α) : List String := r.events.filterMap fun
  | .mark name => some name
  | _ => none

end Run

end BackupConsole
