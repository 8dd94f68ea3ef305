import BackupConsole.Proofs.Connection.Errand
import BackupConsole.Proofs.Except
import BackupConsole.Proofs.Metadata

set_option autoImplicit false

namespace BackupConsole

open Contract (Method)

variable {ω : Type}

/-- Details of a call that differ in nothing but their authorization. -/
structure CallDetails.AuthorizedFrom (token : String) (before after : CallDetails ω) : Prop where
  method : after.method = before.method
  options : after.options = before.options
  metadata : ∃ m, after.metadata = some m ∧ Metadata.Authorized token (before.metadata.getD []) m

theorem CallDetails.authorizedFrom_withAuthorization (token : String) (details : CallDetails ω) :
    AuthorizedFrom token details (details.withAuthorization token) where
  method := rfl
  options := rfl
  metadata := ⟨_, rfl, Metadata.authorized_withAuthorization token _⟩

theorem CallDetails.withAuthorization_withAuthorization (first second : String)
    (details : CallDetails ω) :
    (details.withAuthorization first).withAuthorization second =
      details.withAuthorization second := by
  have last := Metadata.withAuthorization_withAuthorization first second
    (details.metadata.getD [])
  simp only [withAuthorization, Option.getD_some, last]

def Authorizes (token : String) (interceptors : List (Interceptor String)) : Prop :=
  ∀ (ω ρ α : Type) (shape : CallShape) (next : Continuation ω ρ α) (details : CallDetails ω)
    (request : ρ), ∃ passed : CallDetails ω, CallDetails.AuthorizedFrom token details passed ∧
      Interceptor.run (interceptors.map (.map Middleware.credential)) shape next details request =
        (do
          Run.log .debug "backupctl.client.interceptors" shape.announcement
            [("method", .text details.method)]
          next passed request)

theorem authorizes_credentialInterceptors (token : String) :
    Authorizes token (credentialInterceptors token) := by
  intro ω ρ α shape next details request
  refine ⟨_, CallDetails.authorizedFrom_withAuthorization token details, ?_⟩
  cases shape <;> rfl

theorem interceptors_of_createChannel {files : Files} {s : Settings} {channel : Channel}
    (created : createChannel files s = .ok channel) :
    channel.interceptors = credentialInterceptors s.apiToken := by
  obtain ⟨params, _, made⟩ := bind_eq_ok created
  cases made
  rfl

theorem authorized_send (token : String) {α : Type} (shape : CallShape) (before : Metadata)
    (method : Method) (request : List UInt8) (answer : Run α) :
    ∃ after, Metadata.Authorized token before after ∧
      (Client.send (credentialInterceptors token) shape before method request answer).calls =
        { method := method.path, metadata := after, request } :: answer.calls := by
  refine ⟨_, Metadata.authorized_withAuthorization token before, ?_⟩
  rw [Client.send_eq]
  rfl

/-- A call of either shape through a channel is passed on once, authorized and with its request as
it is; sent by an errand or by itself it carries the one authorization of its settings; and only the
last authorization of a call counts. -/
theorem calls_authorized :
    (∀ (files : Files) (s : Settings) (channel : Channel), createChannel files s = .ok channel →
      Authorizes s.apiToken channel.interceptors ∧
      ∀ (α : Type) (shape : CallShape) (before : Metadata) (method : Method)
        (request : List UInt8) (answer : Run α), ∃ after,
          Metadata.Authorized s.apiToken before after ∧
          (Client.send channel.interceptors shape before method request answer).calls =
            { method := method.path, metadata := after, request } :: answer.calls) ∧
    (∀ (ω ρ α : Type) (shape : CallShape) (token : String) (next : Continuation ω ρ α)
      (details : CallDetails ω) (request : ρ), ∃ passed : CallDetails ω,
        CallDetails.AuthorizedFrom token details passed ∧
        intercept shape [Middleware.credential token] next details request = (do
          Run.log .debug "backupctl.client.interceptors" shape.announcement
            [("method", .text details.method)]
          next passed request)) ∧
    (∀ (α : Type) (shape : CallShape) (token : String) (before : Metadata) (method : Method)
      (request : List UInt8) (answer : Run α), ∃ after, Metadata.Authorized token before after ∧
        (Client.send (credentialInterceptors token) shape before method request answer).calls =
          { method := method.path, metadata := after, request } :: answer.calls) ∧
    (∀ (e : Errand) (files : Files) (s : Settings) (c : Coordinator),
      ∀ call ∈ (e.run files s c).calls, ∃ method, e.Asks s method call.request ∧
        call.method = method.path ∧ Metadata.Authorized s.apiToken c.metadata call.metadata) ∧
    ∀ (ω : Type) (first second : String) (details : CallDetails ω),
      (details.withAuthorization first).withAuthorization second =
        details.withAuthorization second := by
  refine ⟨?_, ?_, ?_, ?_, fun _ => CallDetails.withAuthorization_withAuthorization⟩
  · intro files s channel created
    rw [interceptors_of_createChannel created]
    exact ⟨authorizes_credentialInterceptors _, fun _ => authorized_send _⟩
  · intro ω ρ α shape token next details request
    exact ⟨_, CallDetails.authorizedFrom_withAuthorization token details, rfl⟩
  · exact fun _ shape token => authorized_send token shape
  · intro e files s c call sent
    obtain ⟨_, method, request, asks, rfl⟩ := Errand.sends_of_call sent
    exact ⟨method, asks, rfl, Metadata.authorized_withAuthorization _ _⟩

end BackupConsole
