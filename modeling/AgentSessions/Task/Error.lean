import AgentSessions.Ident

/-!
# Failures of task operations

Every operation on tasks says explicitly why it failed.
-/

set_option autoImplicit false

namespace AgentSessions

inductive TaskError where
  | notFound (id : TaskId)
  /-- The task was created but never started. -/
  | notStarted (id : TaskId)
  | alreadyStarted (id : TaskId)
  | cancelled (id : TaskId)
  /-- A wait ran out of time; the tasks go on. -/
  | timeout (timeoutMs : UInt64)
  | unknownAgentType (agentType : String)
  | depthExceeded (depth maxDepth : UInt32)
  | invalidRequest (detail : String)
  | creation (detail : String)
  deriving DecidableEq, Repr

namespace TaskError

def message : TaskError → String
  | notFound id => "task not found: " ++ id.text
  | notStarted id => "task " ++ id.text ++ " was never started"
  | alreadyStarted id => "task " ++ id.text ++ " was already started"
  | cancelled id => "task " ++ id.text ++ " was cancelled"
  | timeout ms => "timed out after " ++ toString ms.toNat ++ "ms waiting for tasks"
  | unknownAgentType agentType => "unknown agent type: " ++ agentType
  | depthExceeded depth maxDepth =>
      "sub-agent depth " ++ toString depth.toNat ++ " exceeds maximum "
        ++ toString maxDepth.toNat
  | invalidRequest detail => "invalid task request: " ++ detail
  | creation detail => "failed to create sub-agent: " ++ detail

def category : TaskError → String
  | notFound _ => "not_found"
  | notStarted _ => "not_started"
  | alreadyStarted _ => "already_started"
  | cancelled _ => "cancelled"
  | timeout _ => "timeout"
  | unknownAgentType _ => "unknown_agent_type"
  | depthExceeded .. => "depth_exceeded"
  | invalidRequest _ => "invalid_request"
  | creation _ => "creation"

end TaskError

end AgentSessions
