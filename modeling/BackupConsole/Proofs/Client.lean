import BackupConsole.Client
import BackupConsole.Proofs.Run
import BackupConsole.Proofs.Stream.Drain

set_option autoImplicit false

namespace BackupConsole.Client

open Contract (Method Msg)

variable {α : Type}

def announced (shape : CallShape) (method : Method) : Event := .log {
  level := .debug
  logger := "backupctl.client.interceptors"
  event := shape.announcement
  fields := [("method", .text method.path)] }

def sentCall (token : String) (metadata : Metadata) (method : Method) (request : List UInt8) :
    SentCall :=
  { method := method.path
    metadata := metadata.withAuthorization token
    request := request }

theorem send_eq (token : String) (shape : CallShape) (metadata : Metadata) (method : Method)
    (request : List UInt8) (answer : Run α) :
    send (credentialInterceptors token) shape metadata method request answer =
      ⟨answer.outcome, announced shape method ::
        .sent (sentCall token metadata method request) :: answer.events⟩ := by
  cases shape <;> rfl

def told (command : String) : Failure → Failure
  | .rpc e => .refused (.callFailed command e)
  | e => e

theorem operate_of_failure {c : Coordinator} {e : Failure}
    (failed : c.operation.failure? = some e) (token : String) (method : Method)
    (request : List UInt8) :
    operate (credentialInterceptors token) c method request = ⟨.error (told method.name e),
      announced .unary method :: .sent (sentCall token c.metadata method request) ::
        c.operation.act.events⟩ := by
  have acted : c.operation.act.outcome = .error e := by rw [Stream.outcome_act, failed]
  simp only [operate, Run.bind_of_error acted, send_eq]
  cases e <;> simp [Run.recover, told, Run.fail]

theorem operate_of_completed {c : Coordinator} (completed : c.operation = .complete)
    (token : String) (method : Method) (request : List UInt8) :
    operate (credentialInterceptors token) c method request =
      ⟨(received .runOperationResponse c.reply).map fun _ => (), [announced .unary method,
        .sent (sentCall token c.metadata method request)]⟩ := by
  simp only [operate, completed, Ending.act, send_eq]
  unfold received
  cases Contract.decode .runOperationResponse c.reply <;> rfl

end BackupConsole.Client
