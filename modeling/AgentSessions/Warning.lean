/-!
# Warnings

What goes wrong without ending the work is logged as a warning: a message, and fields with the
values at hand.
-/

set_option autoImplicit false

namespace AgentSessions

/-- Something went wrong and was passed over. -/
inductive Warning where
  /-- An environment variable does not hold a value of its kind. -/
  | invalidVariable (key value kind : String)
  | handlerFailed (name error : String)
  /-- A hook handler took too long; the chain goes on without it. -/
  | handlerTimedOut (name : String) (timeoutMs : UInt64)
  | releaseNotAcquired (sessionId : String)
  /-- Old turns are dropped because they could not be summarized. -/
  | summarizationFailed (error : String)
  | confirmationFailed (error : String)
  /-- A run that fails anyway leaves its session unsaved. -/
  | persistFailed (error : String)
  deriving DecidableEq, Repr

namespace Warning

def message : Warning → String
  | invalidVariable .. => "invalid env var, ignoring"
  | handlerFailed .. => "hook handler error (fail-open)"
  | handlerTimedOut .. => "hook handler timed out (fail-open)"
  | releaseNotAcquired _ => "release of a session that was not acquired"
  | summarizationFailed _ => "summarization failed, truncating instead"
  | confirmationFailed _ => "confirmation failed, denying"
  | persistFailed _ => "failed to persist session on error path"

def fields : Warning → List (String × String)
  | invalidVariable key value kind => [("key", key), ("value", value), ("kind", kind)]
  | handlerFailed name error => [("name", name), ("error", error)]
  | handlerTimedOut name timeoutMs => [("name", name), ("timeout_ms", toString timeoutMs.toNat)]
  | releaseNotAcquired sessionId => [("session_id", sessionId)]
  | summarizationFailed error => [("error", error)]
  | confirmationFailed error => [("error", error)]
  | persistFailed error => [("error", error)]

end Warning

class MonadWarn (m : Type → Type) where
  warn : Warning → m Unit

instance : MonadWarn Id := ⟨fun _ => ()⟩

/-- A computation that collects its warnings in order. -/
instance : MonadWarn (StateM (List Warning)) := ⟨fun w => modify (· ++ [w])⟩

end AgentSessions
