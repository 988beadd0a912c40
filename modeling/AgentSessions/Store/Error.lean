import AgentSessions.Json.Node

/-!
# Failures of a session store

A store fails because its medium does, because what it holds is not a snapshot, or for a reason of
its own.
-/

set_option autoImplicit false

namespace AgentSessions

def Json.Cause.words : Json.Cause → String
  | .eof => "the text ends inside a value"
  | .malformed => "the text is not JSON"
  | .data => "the value has another shape"

inductive StoreError where
  | io (detail : String)
  | serialization (cause : Json.Cause)
  | backend (detail : String)
  deriving DecidableEq, Repr

def StoreError.message : StoreError → String
  | io detail => "session store I/O error: " ++ detail
  | serialization cause => "session store serialization error: " ++ cause.words
  | backend detail => "session store error: " ++ detail

end AgentSessions
