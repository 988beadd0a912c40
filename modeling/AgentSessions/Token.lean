/-!
# Cancellation tokens

A token stands for a piece of work that can be cancelled. Once tripped it stays so.
-/

set_option autoImplicit false

namespace AgentSessions

/-- The token by which work can be cancelled. -/
structure Token where
  number : Nat
  deriving DecidableEq, Repr, Inhabited

end AgentSessions
