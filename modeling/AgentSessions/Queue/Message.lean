import AgentSessions.Ident
import AgentSessions.Instant
import AgentSessions.Priority

/-!
# Queued prompts

A prompt that waits for its session to become idle, and the refusal of one for which there is no
room.
-/

set_option autoImplicit false

namespace AgentSessions

open Json (Decoder Record Value Object)

structure QueuedMessage where
  id : MessageId
  sessionId : SessionId
  prompt : String
  priority : Priority
  /-- Free data of the caller. -/
  metadata : Object
  createdAt : Instant
  deriving DecidableEq

namespace QueuedMessage

def encode (m : QueuedMessage) : Value :=
  Value.record
    [Value.field "id" m.id.encode, Value.field "sessionId" m.sessionId.encode,
      Value.field "prompt" (.string m.prompt), Value.field "priority" m.priority.encode,
      Value.fieldIf (!m.metadata.isEmpty) "metadata" m.metadata.toValue,
      Value.field "createdAt" m.createdAt.encode]

def decoder : Decoder QueuedMessage := Record.decoder <|
  mk <$> Record.field "id" MessageId.decoder
    <*> Record.field "sessionId" SessionId.decoder
    <*> Record.field "prompt" Decoder.string
    <*> Record.field "priority" Priority.decoder
    <*> Record.withDefault "metadata" Decoder.object Object.empty
    <*> Record.field "createdAt" Instant.decoder

end QueuedMessage

inductive QueueError where
  /-- As many prompts wait for the session as may. -/
  | full (sessionId : SessionId) (capacity : Nat)
  deriving DecidableEq, Repr

namespace QueueError

def message : QueueError → String
  | full sessionId capacity =>
      "backlog full for session " ++ sessionId.text ++ " (capacity " ++ toString capacity ++ ")"

def category : QueueError → String
  | full .. => "backlog_full"

end QueueError

end AgentSessions
