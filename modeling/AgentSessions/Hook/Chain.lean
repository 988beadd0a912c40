import AgentSessions.Hook.Registry
import AgentSessions.Warning

/-!
# Chains of handlers

The handlers that match a tool are consulted one after another. Each sees the request as the
handlers before it left it. A handler that fails or takes too long is passed over with a warning, as
if it were not registered.

Calls: the first denial ends the chain; a question for confirmation is kept, and the first one
counts, unless a later handler denies. Results: the last replacement counts, and all feedback is
collected.
-/

set_option autoImplicit false

namespace AgentSessions

/-- The timeout of a handler that has none of its own. -/
def defaultHookTimeoutMs : UInt64 := 30000

inductive Reply (α : Type) where
  | answered (outcome : α)
  | failed (error : HookError)
  | timedOut
  deriving DecidableEq

namespace Reply

variable {α : Type}

def answer? : Reply α → Option α
  | answered outcome => some outcome
  | failed _ | timedOut => none

/-- The reply of a guarded handler: `none` stands for a timeout. -/
def ofGuarded : Option (Except HookError α) → Reply α
  | none => timedOut
  | some (.ok outcome) => answered outcome
  | some (.error error) => failed error

/-- The warning that a reply is worth. -/
def warning? (name : String) (timeoutMs : UInt64) : Reply α → Option Warning
  | answered _ => none
  | failed error => some (.handlerFailed name error.message)
  | timedOut => some (.handlerTimedOut name timeoutMs)

end Reply

def Handler.timeout {β : Type} (default : UInt64) (h : Handler β) : UInt64 :=
  h.timeoutMs.getD default

namespace Chain

variable {m : Type → Type} [Monad m] [MonadWarn m] {β α : Type}

/-- Consults one handler; what is not an answer is warned of. -/
def consult (ask : Handler β → m (Reply α)) (timeout : UInt64) (h : Handler β) :
    m (Option α) := do
  let reply ← ask h
  match reply.warning? h.name (h.timeout timeout) with
  | none => pure ()
  | some w => MonadWarn.warn w
  pure reply.answer?

/-! ## Calls -/

/-- What a chain that was not denied comes to: `changed` tells whether a handler gave arguments, and
`asked` is the reason of the first handler that asked. -/
def allowed (request : PreRequest) (changed : Bool) (asked : Option (Option String)) :
    PreOutcome :=
  ⟨if asked.isSome then .ask else .allow, asked.join,
    if changed then some request.arguments else none⟩

/-- Runs the chain for a call. -/
def pre (ask : Handler β → PreRequest → m (Reply PreOutcome)) (timeout : UInt64) :
    List (Handler β) → (request : PreRequest) → (changed : Bool) →
      (asked : Option (Option String)) → m PreOutcome
  | [], request, changed, asked => pure (allowed request changed asked)
  | h :: rest, request, changed, asked => do
      match ← consult (ask · request) timeout h with
      | none => pre ask timeout rest request changed asked
      | some outcome =>
          let next := { request with arguments := outcome.updatedArgs.getD request.arguments }
          let changed := changed || outcome.updatedArgs.isSome
          match outcome.decision with
          | .deny => pure ⟨.deny, outcome.reason, none⟩
          | .ask => pre ask timeout rest next changed (asked.or (some outcome.reason))
          | .allow => pre ask timeout rest next changed asked

/-! ## Results -/

/-- Runs the chain for a result: `changed` tells whether a handler replaced it, and `notes` is the
feedback so far. -/
def post (ask : Handler β → PostRequest → m (Reply PostOutcome)) (timeout : UInt64) :
    List (Handler β) → (request : PostRequest) → (changed : Bool) → (notes : List String) →
      m PostOutcome
  | [], request, changed, notes =>
      pure
        ⟨if changed then some request.result else none,
          if notes.isEmpty then none else some ("\n".intercalate notes)⟩
  | h :: rest, request, changed, notes => do
      match ← consult (ask · request) timeout h with
      | none => post ask timeout rest request changed notes
      | some outcome =>
          post ask timeout rest
            { request with result := outcome.updatedResult.getD request.result }
            (changed || outcome.updatedResult.isSome) (notes ++ outcome.feedback.toList)

end Chain

namespace HookRegistry

variable {m : Type → Type} [Monad m] [MonadWarn m] {β γ : Type}

def runPre (r : HookRegistry β γ) (ask : Handler β → PreRequest → m (Reply PreOutcome))
    (timeout : UInt64) (request : PreRequest) : m PreOutcome :=
  Chain.pre ask timeout (r.preFor request.toolName) request false none

def runPost (r : HookRegistry β γ) (ask : Handler γ → PostRequest → m (Reply PostOutcome))
    (timeout : UInt64) (request : PostRequest) : m PostOutcome :=
  Chain.post ask timeout (r.postFor request.toolName) request false []

end HookRegistry

end AgentSessions
