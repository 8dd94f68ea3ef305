import BackupConsole.Run

set_option autoImplicit false

namespace BackupConsole

namespace Metadata

/-- Entries of one key stand together where its first one stood. -/
def grouped (m : Metadata) : Metadata :=
  (m.map (·.1)).eraseDups.flatMap fun k => m.filter fun (j, _) => j == k

def authorizationKey : String := "authorization"

def withAuthorization (token : String) (m : Metadata) : Metadata :=
  (grouped m).filter (fun (k, _) => k != authorizationKey) ++
    [(authorizationKey, "bearer " ++ token)]

end Metadata

/-- What is known about a call before it is sent; `options` travel with it unread. -/
structure CallDetails (ω : Type) where
  method : String
  metadata : Option Metadata
  options : ω

namespace CallDetails

variable {ω : Type}

def withAuthorization (token : String) (d : CallDetails ω) : CallDetails ω :=
  { d with metadata := some (Metadata.withAuthorization token (d.metadata.getD [])) }

end CallDetails

abbrev Continuation (ω ρ α : Type) := CallDetails ω → ρ → Run α

abbrev Middleware (ω ρ α : Type) := Continuation ω ρ α → Continuation ω ρ α

namespace Middleware

variable {ω ρ α : Type}

def compose (ms : List (Middleware ω ρ α)) : Middleware ω ρ α :=
  fun next => ms.foldr (fun m inner => m inner) next

theorem compose_nil (next : Continuation ω ρ α) : compose [] next = next := rfl

theorem compose_cons (m : Middleware ω ρ α) (ms : List (Middleware ω ρ α))
    (next : Continuation ω ρ α) : compose (m :: ms) next = m (compose ms next) := rfl

def credential (token : String) : Middleware ω ρ α :=
  fun next details request => next (details.withAuthorization token) request

end Middleware

namespace CallShape

def announcement : CallShape → String
  | unary => "Unary call"
  | stream => "Streaming call"

end CallShape

def intercept {ω ρ α : Type} (shape : CallShape) (ms : List (Middleware ω ρ α))
    (next : Continuation ω ρ α) (details : CallDetails ω) (request : ρ) : Run α := do
  Run.log .debug "backupctl.client.interceptors" shape.announcement
    [("method", .text details.method)]
  Middleware.compose ms next details request

/-- Middlewares for the calls of one shape. -/
structure Interceptor (μ : Type) where
  shape : CallShape
  middlewares : List μ

namespace Interceptor

variable {μ ω ρ α : Type}

def map {ν : Type} (f : μ → ν) (i : Interceptor μ) : Interceptor ν :=
  ⟨i.shape, i.middlewares.map f⟩

def build (ms : List μ) : List (Interceptor μ) := [⟨.unary, ms⟩, ⟨.stream, ms⟩]

/-- A call passes the interceptors of its shape, the first one outermost. -/
def run (is : List (Interceptor (Middleware ω ρ α))) (shape : CallShape)
    (next : Continuation ω ρ α) : Continuation ω ρ α :=
  (is.filter fun i => i.shape == shape).foldr (fun i inner => intercept shape i.middlewares inner)
    next

end Interceptor

-- Interceptors that authorize the calls of either shape. The credential middlewares of a channel
-- are given by their tokens.
def credentialInterceptors (token : String) : List (Interceptor String) :=
  Interceptor.build [token]

end BackupConsole
