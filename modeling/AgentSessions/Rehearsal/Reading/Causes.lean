import AgentSessions.Json.Lookup
import AgentSessions.Run.Outcome
import AgentSessions.Compaction.Summary
import AgentSessions.Hook.Request
import AgentSessions.Tool.Spec

/-!
# Errors described in JSON

What fails in a rehearsal is written down as an object: its `kind` names the cause, and the other
members are the details of the cause.
-/

set_option autoImplicit false

namespace AgentSessions.Rehearsal.Reading

open Json (Decoder Value)

def message (v : Value) : String :=
  v.textOr "message" ""

/-- A member that is a word of 32 bits, or zero. -/
def smallWord (v : Value) (key : String) : UInt32 :=
  UInt32.ofNat (v.natOr key 0)

def modelError? (v : Value) : Option ModelError := do
  match ← v.text? "kind" with
  | "transport" => some (.transport (message v))
  | "rate_limited" => some (.rateLimited (v.word? "retryAfterMs"))
  | "invalid_response" => some (.invalidResponse (message v))
  | _ => none

def toolError? (v : Value) : Option ToolError := do
  let tool := v.textOr "tool" ""
  match ← v.text? "kind" with
  | "invalid_arguments" => some (.invalidArguments tool (message v))
  | "execution" => some (.execution tool (message v))
  | "cancelled" => some (.cancelled tool)
  | _ => none

/-- Why a store failed. A failure of serialization is given by a text that cannot be read. -/
def storeError? (v : Value) : Option StoreError := do
  match ← v.text? "kind" with
  | "io" => some (.io (message v))
  | "backend" => some (.backend (message v))
  | "serialization" =>
      match Decoder.text? Decoder.any (v.textOr "text" "") with
      | .error cause => some (.serialization cause)
      | .ok _ => none
  | _ => none

def hookError? (v : Value) : Option HookError := do
  let name := v.textOr "name" ""
  match ← v.text? "kind" with
  | "timeout" => some (.timeout name ((v.word? "timeoutMs").getD 0))
  | "handler" => some (.handler name (message v))
  | "confirmation" => some (.confirmation (message v))
  | _ => none

def queueError? (v : Value) : Option QueueError := do
  some (.full ⟨← v.text? "id"⟩ (← v.nat? "capacity"))

def taskError? (v : Value) : Option TaskError := do
  let id : TaskId := ⟨v.textOr "id" ""⟩
  match ← v.text? "kind" with
  | "not_found" => some (.notFound id)
  | "not_started" => some (.notStarted id)
  | "already_started" => some (.alreadyStarted id)
  | "cancelled" => some (.cancelled id)
  | "timeout" => some (.timeout ((v.word? "timeoutMs").getD 0))
  | "unknown_agent_type" => some (.unknownAgentType (message v))
  | "depth_exceeded" => some (.depthExceeded (smallWord v "depth") (smallWord v "maxDepth"))
  | "invalid_request" => some (.invalidRequest (message v))
  | "creation" => some (.creation (message v))
  | _ => none

def summarizerError? (v : Value) : Option SummarizerError := do
  match ← v.text? "kind" with
  | "call_failed" => some (.callFailed (message v))
  | "empty" => some .empty
  | _ => none

def runError? (v : Value) : Option RunError := do
  let inner := v.get "inner"
  match ← v.text? "kind" with
  | "model" => .model <$> modelError? inner
  | "save" => .save <$> storeError? inner
  | "queue" => .queue <$> queueError? inner
  | "task" => .task <$> taskError? inner
  | "persistence" => .store <$> storeError? inner
  | "agent" => some (.agent (message v))
  | "max_steps" => some (.maxSteps (smallWord v "maxSteps") (v.text? "partial"))
  | "busy" => some (.busy ⟨v.textOr "id" ""⟩)
  | "cancelled" => some .cancelled
  | "internal" => some (.internal (message v))
  | _ => none

end AgentSessions.Rehearsal.Reading
