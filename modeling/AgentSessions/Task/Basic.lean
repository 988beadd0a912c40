import AgentSessions.Ident
import AgentSessions.Instant
import AgentSessions.Priority

/-!
# Tasks

A task is a piece of work that is delegated to a sub-agent. It waits until it is started and a slot
is free, runs, and ends in one of three states for good.
-/

set_option autoImplicit false

namespace AgentSessions

open Json (Decoder Record Value)

/-- Where a task stands. -/
inductive TaskState where
  | pending
  | running
  | completed
  | failed
  | cancelled
  deriving DecidableEq, Repr, Inhabited

namespace TaskState

def all : List TaskState := [pending, running, completed, failed, cancelled]

def name : TaskState → String
  | pending => "pending"
  | running => "running"
  | completed => "completed"
  | failed => "failed"
  | cancelled => "cancelled"

def names : List (String × TaskState) :=
  all.map fun s => (s.name, s)

def isTerminal : TaskState → Bool
  | completed | failed | cancelled => true
  | pending | running => false

/-- Whether a task can pass from one state to another. -/
def canBecome : TaskState → TaskState → Bool
  | pending, running | pending, cancelled => true
  | running, completed | running, failed | running, cancelled => true
  | _, _ => false

def encode (s : TaskState) : Value := .string s.name

def decoder : Decoder TaskState := Decoder.oneOf names

end TaskState

structure Task where
  id : TaskId
  /-- The prompt of the sub-agent. -/
  description : String
  agentType : String
  state : TaskState
  /-- Kept for the caller; tasks start in the order in which they are submitted. -/
  priority : Priority
  parentSessionId : Option SessionId
  childSessionId : SessionId
  /-- How deep the sub-agent is nested. -/
  depth : UInt32
  createdAt : Instant
  startedAt : Option Instant
  finishedAt : Option Instant
  result : Option String
  /-- What went wrong with a task that failed or was cancelled. -/
  error : Option String
  deriving DecidableEq

namespace Task

def isTerminal (t : Task) : Bool :=
  t.state.isTerminal

/-- Whether a task stands before another in a list: the older one, and of two that are as old the
one with the smaller name. -/
def notAfter (a b : Task) : Bool :=
  if a.createdAt = b.createdAt then decide (a.id.text ≤ b.id.text)
  else a.createdAt.notAfter b.createdAt

def encode (t : Task) : Value :=
  Value.record
    [Value.field "id" t.id.encode, Value.field "description" (.string t.description),
      Value.field "agentType" (.string t.agentType), Value.field "state" t.state.encode,
      Value.field "priority" t.priority.encode,
      Value.optional "parentSessionId" SessionId.encode t.parentSessionId,
      Value.field "childSessionId" t.childSessionId.encode,
      Value.field "depth" (.nat t.depth.toNat), Value.field "createdAt" t.createdAt.encode,
      Value.optional "startedAt" Instant.encode t.startedAt,
      Value.optional "finishedAt" Instant.encode t.finishedAt,
      Value.optional "result" Value.string t.result, Value.optional "error" Value.string t.error]

def decoder : Decoder Task := Record.decoder <|
  mk <$> Record.field "id" TaskId.decoder
    <*> Record.field "description" Decoder.string
    <*> Record.field "agentType" Decoder.string
    <*> Record.field "state" TaskState.decoder
    <*> Record.field "priority" Priority.decoder
    <*> Record.optional "parentSessionId" SessionId.decoder
    <*> Record.field "childSessionId" SessionId.decoder
    <*> Record.field "depth" Decoder.uint32
    <*> Record.field "createdAt" Instant.decoder
    <*> Record.optional "startedAt" Instant.decoder
    <*> Record.optional "finishedAt" Instant.decoder
    <*> Record.optional "result" Decoder.string
    <*> Record.optional "error" Decoder.string

end Task

/-- What is wanted of a new task. -/
structure TaskRequest where
  description : String
  agentType : String
  priority : Priority
  parentSession : Option SessionId
  autoStart : Bool
  depth : UInt32
  deriving DecidableEq, Repr

/-- A choice of tasks; what is not given does not matter. -/
structure TaskFilter where
  state : Option TaskState
  parentSession : Option SessionId
  deriving DecidableEq, Repr

namespace TaskFilter

def all : TaskFilter := ⟨none, none⟩

def accepts (f : TaskFilter) (t : Task) : Bool :=
  f.state.all (· == t.state) && f.parentSession.all fun p => t.parentSessionId == some p

end TaskFilter

end AgentSessions
