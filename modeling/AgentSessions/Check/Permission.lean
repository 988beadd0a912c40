import AgentSessions.Hook.Request
import AgentSessions.History.Turn
import AgentSessions.Warning

/-!
# Permission to run a tool

Every call passes the checks in order. The first denial settles it. If a check asked and none
denied, somebody has to confirm the call; where nobody can be asked it goes on. Each check sees the
arguments as the checks before it left them, and the call runs with those that the last one left.

After the tool ran the reviews are applied to its result one after another.
-/

set_option autoImplicit false

namespace AgentSessions

open Json (Object)

/-- Whether a call may run, and with which arguments. -/
inductive Verdict where
  | proceed (arguments : Object)
  /-- The call is refused, with the arguments as they stood then. -/
  | deny (reason : String) (arguments : Object)
  deriving DecidableEq

namespace Permission

variable {m : Type → Type} [Monad m] [MonadWarn m]

/-- The reason of a denial that gives none. -/
def unexplained : String := "denied by pre-tool-use check"

def declined : String := "declined by user"

def request (session : SessionId) (call : ToolCall) (arguments : Object) : PreRequest :=
  ⟨session, call.name, arguments, call.id⟩

/-- What the checks come to: a denial, or the last arguments and the reason of the first check that
asked. -/
inductive Checked where
  | denied (reason : String) (arguments : Object)
  | passed (arguments : Object) (asked : Option (Option String))

def consult (session : SessionId) (call : ToolCall) :
    List (PreRequest → m PreOutcome) → (arguments : Object) →
      (asked : Option (Option String)) → m Checked
  | [], arguments, asked => pure (.passed arguments asked)
  | check :: rest, arguments, asked => do
      let outcome ← check (request session call arguments)
      let arguments := outcome.updatedArgs.getD arguments
      match outcome.decision with
      | .allow => consult session call rest arguments asked
      | .deny => pure (.denied (outcome.reason.getD unexplained) arguments)
      | .ask => consult session call rest arguments (asked.or (some outcome.reason))

/-- Has a call confirmed. A confirmation that fails is a refusal. -/
def confirmed (confirm : ConfirmationRequest → m (Except HookError Bool)) (session : SessionId)
    (call : ToolCall) (arguments : Object) (reason : Option String) : m Verdict := do
  match ← confirm ⟨session, call.name, arguments, reason⟩ with
  | .ok true => pure (.proceed arguments)
  | .ok false => pure (.deny declined arguments)
  | .error e => do
      MonadWarn.warn (.confirmationFailed e.message)
      pure (.deny ("confirmation failed: " ++ e.message) arguments)

def judge (checks : List (PreRequest → m PreOutcome))
    (confirm : Option (ConfirmationRequest → m (Except HookError Bool)))
    (session : SessionId) (call : ToolCall) : m Verdict := do
  match ← consult session call checks call.arguments none with
  | .denied reason arguments => pure (.deny reason arguments)
  | .passed arguments asked =>
      match asked, confirm with
      | some reason, some confirm => confirmed confirm session call arguments reason
      | _, _ => pure (.proceed arguments)

end Permission

/-- Applies the reviews to a result, each to what the one before it left. -/
def review {m : Type → Type} [Monad m] (checks : List (PostRequest → m PostOutcome))
    (request : PostRequest) : m ToolOutcome :=
  checks.foldlM (fun result check => do
    let outcome ← check { request with result := result }
    pure (outcome.apply result)) request.result

end AgentSessions
