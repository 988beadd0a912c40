import AgentSessions.Model
import AgentSessions.Queue.Message
import AgentSessions.Store.Error
import AgentSessions.Task.Error

/-!
# Outcomes of a run

A run of the engine ends with a summary or with an error.
-/

set_option autoImplicit false

namespace AgentSessions

open Json (Decoder Record Value)

inductive StopReason where
  /-- The model answered without calling tools. -/
  | finalAnswer
  /-- A quota was used up and the model was made to answer. -/
  | quotaExhausted
  | maxSteps
  | cancelled
  | error
  deriving DecidableEq, Repr

namespace StopReason

def name : StopReason → String
  | finalAnswer => "final_answer"
  | quotaExhausted => "quota_exhausted"
  | maxSteps => "max_steps"
  | cancelled => "cancelled"
  | error => "error"

def names : List (String × StopReason) :=
  [finalAnswer, quotaExhausted, maxSteps, cancelled, error].map fun r => (r.name, r)

def encode (r : StopReason) : Value := .string r.name

def decoder : Decoder StopReason := Decoder.oneOf names

end StopReason

structure RunSummary where
  text : String
  steps : UInt32
  toolCalls : UInt32
  stopReason : StopReason
  /-- Whether a quota that was used up forced the answer. -/
  forcedFinalAnswer : Bool
  deriving DecidableEq, Repr

namespace RunSummary

def encode (s : RunSummary) : Value :=
  Value.record
    [Value.field "text" (.string s.text), Value.field "steps" (.nat s.steps.toNat),
      Value.field "toolCalls" (.nat s.toolCalls.toNat),
      Value.field "stopReason" s.stopReason.encode,
      Value.field "forcedFinalAnswer" (.bool s.forcedFinalAnswer)]

def decoder : Decoder RunSummary := Record.decoder <|
  mk <$> Record.field "text" Decoder.string
    <*> Record.field "steps" Decoder.uint32
    <*> Record.field "toolCalls" Decoder.uint32
    <*> Record.field "stopReason" StopReason.decoder
    <*> Record.field "forcedFinalAnswer" Decoder.bool

end RunSummary

/-- What became of a prompt. -/
inductive RunReply where
  | completed (summary : RunSummary)
  /-- Its session was busy, and it waits. -/
  | queued (message : QueuedMessage)
  deriving DecidableEq

def RunReply.text : RunReply → Option String
  | completed summary => some summary.text
  | queued _ => none

/-- Why a run was not answered, or an operation on a session was refused. -/
inductive RunError where
  | model (cause : ModelError)
  /-- The session could not be saved where it has to be. -/
  | save (cause : StoreError)
  /-- The agent failed for a reason of its own. -/
  | agent (detail : String)
  /-- The steps were used up; `lastText` is the last text that the model gave with its calls. -/
  | maxSteps (limit : UInt32) (lastText : Option String)
  | busy (session : SessionId)
  | queue (cause : QueueError)
  | task (cause : TaskError)
  | cancelled
  /-- The session could not be loaded. -/
  | store (cause : StoreError)
  | internal (detail : String)
  deriving DecidableEq, Repr

namespace RunError

def message : RunError → String
  | model cause => "agent execution failed: " ++ cause.message
  | save cause => "agent execution failed: failed to persist session: " ++ cause.message
  | agent detail => "agent execution failed: " ++ detail
  | maxSteps limit _ => "max steps (" ++ toString limit.toNat ++ ") reached"
  | busy session => "session busy: " ++ session.text
  | queue cause => cause.message
  | task cause => cause.message
  | cancelled => "operation cancelled"
  | store cause => "persistence error: " ++ cause.message
  | internal detail => "internal error: " ++ detail

def category : RunError → String
  | model _ | save _ | agent _ => "agent_execution"
  | maxSteps .. => "max_steps"
  | busy _ => "session_busy"
  | queue _ => "queue"
  | task _ => "task"
  | cancelled => "cancelled"
  | store _ => "persistence"
  | internal _ => "internal"

/-- Whether the caller can try again later. -/
def isRecoverable : RunError → Bool
  | cancelled | maxSteps .. | busy _ | queue _ => true
  | _ => false

/-- The error behind the error, in words. -/
def source : RunError → Option String
  | model cause => some cause.message
  | save cause | store cause => some cause.message
  | _ => none

end RunError

end AgentSessions
