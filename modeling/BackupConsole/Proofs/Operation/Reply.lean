import BackupConsole.Proofs.Operation.Report

set_option autoImplicit false

namespace BackupConsole.Operation

open Contract (Msg errorFields)

def errors (reply : Msg .runOperationResponse) : List (Wire.Row errorFields) := reply.1

/-- Success is for replies without an error, and a reply with one is a failure. -/
def ErrorsAreFatal (op : Operation) (files : Files) (s : Settings) (c : Coordinator) : Prop :=
  ∀ bytes reply, op.Answered files s c bytes reply →
    let run := op.command.dispatch files s c
    (run.output ≠ "" ∨ run.outcome = .ok Command.exitOk → errors reply = []) ∧
      (errors reply ≠ [] → Reported run)

variable {op : Operation} {files : Files} {s : Settings} {c : Coordinator}

theorem operate_reply {reply other : Msg .runOperationResponse} {bytes : List UInt8}
    (decoded : Contract.decode .runOperationResponse c.reply = some reply)
    (readable : Contract.decode .runOperationResponse bytes = some other)
    (interceptors : List (Interceptor String)) (method : Contract.Method) (request : List UInt8) :
    Client.operate interceptors { c with reply := bytes } method request =
      Client.operate interceptors c method request := by
  -- A reply is asked for nothing but its form.
  simp only [Client.operate, received, decoded, readable]
  rfl

theorem dispatch_reply {reply other : Msg .runOperationResponse} {bytes : List UInt8}
    (decoded : Contract.decode .runOperationResponse c.reply = some reply)
    (readable : Contract.decode .runOperationResponse bytes = some other) :
    op.command.dispatch files s { c with reply := bytes } = op.command.dispatch files s c := by
  have performed : op.command.perform files s { c with reply := bytes } =
      op.command.perform files s c := by
    simp only [perform_eq, operate_reply decoded readable]
  rw [Command.dispatch, performed, Command.dispatch]

/-- Errors in a reply are not fatal: an answered call ends in success whatever its reply lists. -/
theorem errorsAreFatal_iff (op : Operation) (files : Files) (s : Settings) (c : Coordinator) :
    (op.ErrorsAreFatal files s c ↔
      ∀ bytes reply, op.Answered files s c bytes reply → errors reply = []) ∧
    (∀ bytes reply, op.Answered files s c bytes reply →
      (op.command.dispatch files s c).outcome = .ok Command.exitOk ∧
      (op.command.dispatch files s c).output = op.completion ++ "\n" ∧
      ∀ bytes other, Contract.decode .runOperationResponse bytes = some other →
        op.command.dispatch files s { c with reply := bytes } = op.command.dispatch files s c) := by
  refine ⟨⟨?_, ?_⟩, ?_⟩
  · intro fatal bytes reply answered
    exact (fatal bytes reply answered).1 (.inr (dispatch_of_answered answered).1)
  · intro clean bytes reply answered
    have none_listed := clean bytes reply answered
    exact ⟨fun _ => none_listed, fun listed => absurd none_listed listed⟩
  · intro bytes reply answered
    obtain ⟨outcome, output, _⟩ := dispatch_of_answered answered
    exact ⟨outcome, output, fun _ _ => dispatch_reply answered.decoded⟩

def diskFull : Coordinator := { reply := [10, 6, 10, 4, 100, 105, 115, 107] }

theorem disk_full_unreported :
    ¬ backup.ErrorsAreFatal (.ofHome "/home") Settings.defaults diskFull := by
  intro fatal
  have answered : backup.Answered (.ofHome "/home") Settings.defaults diskFull
      (Contract.encode (BackupRequest.ofSettings Settings.defaults |>.toOption.get rfl).toMessage)
      ([("disk", ())], ()) := ⟨rfl, ⟨_, rfl⟩, rfl, rfl, rfl⟩
  have unlisted := (fatal _ _ answered).1 (.inr (dispatch_of_answered answered).1)
  cases unlisted

end BackupConsole.Operation
