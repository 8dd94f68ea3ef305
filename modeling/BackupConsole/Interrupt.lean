import BackupConsole.Stream

set_option autoImplicit false

namespace BackupConsole

namespace Interrupt

def exitCode : Nat := 130

def noted : Event → List Event
  | .signal => [.signal, .log {
      level := .debug
      logger := "backupctl.cli.runtime"
      event := "Interrupt received, cancelling command" }]
  | e => [e]

def guard {α : Type} (r : Run α) : Run α :=
  { outcome := match r.outcome with
      | .error .cancelled => .error (if r.signals = 0 then .cancelled else .interrupted)
      | o => o
    events := r.events.flatMap noted }

end Interrupt

inductive Action
  | step
  | interrupt
  | cancel
  | raise (text : String)
  | answer (d : Datum)

namespace Action

def play (swallow : Bool) : List Action → Run Datum
  | [] => return .null
  | .step :: rest => do
    Run.emit (.mark "step")
    play swallow rest
  | .interrupt :: rest => do
    Run.emit .signal
    Run.emit (.mark "cancelled")
    if swallow then play swallow rest else .fail .cancelled
  | .cancel :: rest => do
    Run.emit (.mark "cancelled")
    if swallow then play swallow rest else .fail .cancelled
  | .raise text :: _ => .fail (.raised .other text)
  | .answer d :: _ => return d

end Action

end BackupConsole
