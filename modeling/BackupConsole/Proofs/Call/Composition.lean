import BackupConsole.Proofs.Connection.Authorization

set_option autoImplicit false

namespace BackupConsole.Middleware

variable {ω ρ α : Type}

theorem compose_append (xs ys : List (Middleware ω ρ α)) (next : Continuation ω ρ α) :
    compose (xs ++ ys) next = compose xs (compose ys next) :=
  List.foldr_append ..

theorem compose_flatten (groups : List (List (Middleware ω ρ α))) :
    compose groups.flatten = compose (groups.map compose) := by
  funext next
  induction groups with
  | nil => rfl
  | cons xs groups ih => rw [List.flatten_cons, compose_append, ih, List.map_cons, compose_cons]

/-- A middleware that passes every call on. It may change the call on its way in and what it comes
to on its way out, and leaves an event each time. -/
structure Layer (ω ρ α : Type) where
  enter : CallDetails ω → ρ → CallDetails ω × ρ
  leave : Except Failure α → Except Failure α
  entered : Event
  left : Event

namespace Layer

def middleware (l : Layer ω ρ α) : Middleware ω ρ α := fun next details request =>
  let (details, request) := l.enter details request
  let answer := next details request
  ⟨l.leave answer.outcome, l.entered :: (answer.events ++ [l.left])⟩

/-- The call as it comes out of the layers, the first of which gets it first. -/
def inward (ls : List (Layer ω ρ α)) (call : CallDetails ω × ρ) : CallDetails ω × ρ :=
  ls.foldl (fun call l => l.enter call.1 call.2) call

/-- What the call comes to; the first layer gets it last. -/
def outward (ls : List (Layer ω ρ α)) (outcome : Except Failure α) : Except Failure α :=
  ls.reverse.foldl (fun outcome l => l.leave outcome) outcome

theorem outward_cons (l : Layer ω ρ α) (ls : List (Layer ω ρ α)) (outcome : Except Failure α) :
    outward (l :: ls) outcome = l.leave (outward ls outcome) := by
  simp [outward]

end Layer

theorem compose_layers (ls : List (Layer ω ρ α)) (next : Continuation ω ρ α)
    (details : CallDetails ω) (request : ρ) :
    let (passed, asked) := Layer.inward ls (details, request)
    compose (ls.map Layer.middleware) next details request =
      ⟨Layer.outward ls (next passed asked).outcome,
        ls.map Layer.entered ++ ((next passed asked).events ++ (ls.map Layer.left).reverse)⟩ := by
  induction ls generalizing details request with
  | nil => simp [compose_nil, Layer.inward, Layer.outward]
  | cons l ls ih =>
    have inner := ih (l.enter details request).1 (l.enter details request).2
    simp only [List.map_cons, compose_cons, Layer.middleware, inner, Layer.outward_cons]
    simp [Layer.inward]

theorem compose_credentials {tokens : List String} {last : String}
    (ends : tokens.getLast? = some last) (next : Continuation ω ρ α) (details : CallDetails ω)
    (request : ρ) : compose (tokens.map credential) next details request =
      next (details.withAuthorization last) request := by
  induction tokens generalizing details with
  | nil => cases ends
  | cons token tokens ih =>
    rw [List.map_cons, compose_cons, credential]
    cases tokens with
    | nil =>
      cases ends
      rfl
    | cons second rest =>
      -- The next credentials replace these before anything else sees them.
      rw [List.getLast?_cons_cons] at ends
      rw [ih ends, CallDetails.withAuthorization_withAuthorization]

def note (shape : CallShape) (method : String) : Event := .log {
  level := .debug
  logger := "backupctl.client.interceptors"
  event := shape.announcement
  fields := [("method", .text method)] }

theorem intercept_eq (shape : CallShape) (ms : List (Middleware ω ρ α))
    (next : Continuation ω ρ α) (details : CallDetails ω) (request : ρ) :
    intercept shape ms next details request =
      ⟨(compose ms next details request).outcome,
        note shape details.method :: (compose ms next details request).events⟩ := rfl

/-- Lists of middleware are composed in their order, however they are grouped; the first one gets
the call first and what it comes to last. A list of credentials passes a call on once, with the last
of them, and hands on what it comes to; and calls of both shapes run the same chain. -/
theorem composed_in_order (ω ρ α : Type) :
    (∀ (xs ys : List (Middleware ω ρ α)) (next : Continuation ω ρ α),
      compose (xs ++ ys) next = compose xs (compose ys next) ∧ compose [] next = next) ∧
    (∀ (m : Middleware ω ρ α) (ms : List (Middleware ω ρ α)) (next : Continuation ω ρ α),
      compose (m :: ms) next = m (compose ms next)) ∧
    (∀ groups : List (List (Middleware ω ρ α)),
      compose groups.flatten = compose (groups.map compose)) ∧
    (∀ (ls : List (Layer ω ρ α)) (next : Continuation ω ρ α) (details : CallDetails ω)
      (request : ρ), let (passed, asked) := Layer.inward ls (details, request)
        compose (ls.map Layer.middleware) next details request =
          ⟨Layer.outward ls (next passed asked).outcome, ls.map Layer.entered ++
            ((next passed asked).events ++ (ls.map Layer.left).reverse)⟩) ∧
    (∀ (tokens : List String) (last : String), tokens.getLast? = some last →
      ∀ details : CallDetails ω, ∃ passed, CallDetails.AuthorizedFrom last details passed ∧
        ∀ (next : Continuation ω ρ α) (request : ρ),
          compose (tokens.map credential) next details request = next passed request) ∧
    ∀ (shape : CallShape) (ms : List (Middleware ω ρ α)) (next : Continuation ω ρ α)
      (details : CallDetails ω) (request : ρ), intercept shape ms next details request =
        ⟨(compose ms next details request).outcome,
          note shape details.method :: (compose ms next details request).events⟩ := by
  refine ⟨fun xs ys next => ⟨compose_append xs ys next, compose_nil next⟩, compose_cons,
    compose_flatten, compose_layers, ?_, intercept_eq⟩
  intro tokens last ends details
  exact ⟨_, CallDetails.authorizedFrom_withAuthorization last details,
    fun next request => compose_credentials ends next details request⟩

/-- A call that had an authorization gets two others, and fails. -/
theorem composed_in_order_failing :
    let details : CallDetails Unit :=
      { method := "/api.Api/GetClients", metadata := some [("authorization", "none"), ("id", "42")],
        options := () }
    let next : Continuation Unit String Nat := fun passed request =>
      ⟨.error .cancelled, [.mark (passed.method ++ request)]⟩
    ["a", "b"].getLast? = some "b" ∧ ∃ passed, CallDetails.AuthorizedFrom "b" details passed ∧
      compose (["a", "b"].map credential) next details "?" =
        ⟨.error .cancelled, [.mark "/api.Api/GetClients?"]⟩ := by
  intro details next
  obtain ⟨_, _, _, _, credentials, _⟩ := composed_in_order Unit String Nat
  obtain ⟨passed, authorized, chained⟩ := credentials ["a", "b"] "b" rfl details
  refine ⟨rfl, passed, authorized, (chained next "?").trans ?_⟩
  simp only [next, authorized.method]
  rfl

end BackupConsole.Middleware
