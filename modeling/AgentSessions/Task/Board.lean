import AgentSessions.Task.Basic
import AgentSessions.Task.Error
import AgentSessions.Text.Bytes
import AgentSessions.Token

/-!
# The board of tasks

The board knows every task that was created. A task is submitted once; submitted tasks wait in a
queue and are admitted in that order while there are free slots. An admitted task holds its slot
until its body is done, whatever becomes of the task meanwhile.

A task passes from state to state by `change`, which refuses every change that is not legal. So the
first change to a terminal state wins, and later ones do nothing.

What a change leads to elsewhere is kept on the board until it is taken from there: the changes that
have to be published, and the tasks whose bodies have to be started.
-/

set_option autoImplicit false

namespace AgentSessions

/-- A change of a task that has to be published. -/
structure TaskChange where
  parent : Option SessionId
  id : TaskId
  state : TaskState
  deriving DecidableEq, Repr

structure TaskEntry where
  task : Task
  /-- Whether the task was started by somebody. -/
  submitted : Bool
  token : Token
  deriving DecidableEq

/-- The tasks and their slots. -/
structure Board where
  /-- The tasks in the order of their creation. -/
  entries : List TaskEntry
  waiting : List TaskId
  slots : Nat
  free : Nat
  maxDepth : UInt32
  agentTypes : List String
  /-- The changes that have to be published, oldest first. -/
  changes : List TaskChange
  /-- The admitted tasks whose bodies have to be started, first come first. -/
  admitted : List TaskId
  deriving DecidableEq

namespace TaskEntry

def id (e : TaskEntry) : TaskId := e.task.id

def state (e : TaskEntry) : TaskState := e.task.state

/-- Whether somebody who waits for the task would wait forever: it was never started. -/
def isIdle (e : TaskEntry) : Bool :=
  !e.submitted && e.state == .pending

end TaskEntry

namespace Board

/-- The board without tasks. At least one task can run. -/
def empty (maxConcurrent : Nat) (maxDepth : UInt32) (agentTypes : List String) : Board :=
  ⟨[], [], max 1 maxConcurrent, max 1 maxConcurrent, maxDepth, agentTypes, [], []⟩

def find? (b : Board) (id : TaskId) : Option TaskEntry :=
  b.entries.find? fun e => e.id == id

def get? (b : Board) (id : TaskId) : Option Task :=
  (b.find? id).map TaskEntry.task

/-- The entry of a task, or the error that there is none. -/
def lookup (b : Board) (id : TaskId) : Except TaskError TaskEntry :=
  match b.find? id with
  | some e => .ok e
  | none => .error (.notFound id)

/-- The board with another entry in the place of the one with its identifier. -/
def replace (b : Board) (entry : TaskEntry) : Board :=
  { b with entries := b.entries.map fun e => if e.id = entry.id then entry else e }

def announce (b : Board) (t : Task) : Board :=
  { b with changes := b.changes ++ [⟨t.parentSessionId, t.id, t.state⟩] }

/-! ## Changes of state -/

/-- A task in its next state. A terminal state closes it. -/
def enter (t : Task) (next : TaskState) (now : Instant) : Task :=
  { t with
    state := next
    finishedAt := if next.isTerminal then some now else t.finishedAt }

/-- Passes a task to another state and completes it with `apply`, if the change is legal. The result
tells whether it was. -/
def change (b : Board) (id : TaskId) (next : TaskState) (apply : Task → Task) (now : Instant) :
    Bool × Board :=
  match b.find? id with
  | none => (false, b)
  | some e =>
      if e.state.canBecome next then
        let task := apply (enter e.task next now)
        (true, (b.replace { e with task := task }).announce task)
      else (false, b)

def cancelledText : String := "cancelled"

def withError (text : String) (t : Task) : Task := { t with error := some text }

/-! ## Admission -/

/-- Whether a task still waits. -/
def isPending (b : Board) (id : TaskId) : Bool :=
  match b.find? id with
  | some e => e.state == .pending
  | none => false

/-- Admits waiting tasks while there are free slots. Tasks that wait no longer are passed over. -/
def fill (b : Board) : (free : Nat) → List TaskId → Board
  | 0, waiting => { b with free := 0, waiting := waiting }
  | free + 1, [] => { b with free := free + 1, waiting := [] }
  | free + 1, id :: rest =>
      if b.isPending id then fill { b with admitted := b.admitted ++ [id] } free rest
      else fill b (free + 1) rest

def pump (b : Board) : Board :=
  b.fill b.free b.waiting

/-! ## Requests -/

structure Fresh where
  task : TaskId
  session : SessionId
  token : Token

/-- Why a request is refused. -/
def refusal? (b : Board) (r : TaskRequest) : Option TaskError :=
  if (Text.trim r.description).isEmpty then some (.invalidRequest "description is empty")
  else if b.maxDepth < r.depth then some (.depthExceeded r.depth b.maxDepth)
  else if !b.agentTypes.contains r.agentType then some (.unknownAgentType r.agentType)
  else none

def newTask (r : TaskRequest) (fresh : Fresh) (now : Instant) : Task where
  id := fresh.task
  description := r.description
  agentType := r.agentType
  state := .pending
  priority := r.priority
  parentSessionId := r.parentSession
  childSessionId := fresh.session
  depth := r.depth
  createdAt := now
  startedAt := none
  finishedAt := none
  result := none
  error := none

def start (b : Board) (id : TaskId) : Except TaskError Task × Board :=
  match b.find? id with
  | none => (.error (.notFound id), b)
  | some e =>
      if e.state = .cancelled then (.error (.cancelled id), b)
      else if e.submitted then (.error (.alreadyStarted id), b)
      else
        let b := b.replace { e with submitted := true }
        (.ok e.task, ({ b with waiting := b.waiting ++ [id] } : Board).pump)

def create (b : Board) (r : TaskRequest) (fresh : Fresh) (now : Instant) :
    Except TaskError Task × Board :=
  match b.refusal? r with
  | some e => (.error e, b)
  | none =>
      let task := newTask r fresh now
      let entry : TaskEntry := ⟨task, false, fresh.token⟩
      let b := ({ b with entries := b.entries ++ [entry] } : Board).announce task
      if r.autoStart then b.start task.id else (.ok task, b)

/-- Cancels a task that is not done. The result is the token that has to be tripped; there is none
when nothing was cancelled. -/
def cancel (b : Board) (id : TaskId) (now : Instant) : Option Token × Board :=
  match b.find? id with
  | none => (none, b)
  | some e =>
      match b.change id .cancelled (withError cancelledText) now with
      | (true, b) => (some e.token, b)
      | (false, b) => (none, b)

/-- Cancels tasks in turn; gives the tokens that have to be tripped. -/
def cancelAll (now : Instant) : List TaskId → Board → List Token × Board
  | [], b => ([], b)
  | id :: rest, b =>
      let (token, b) := b.cancel id now
      let (tokens, b) := cancelAll now rest b
      (token.toList ++ tokens, b)

/-- Cancels every task that is not done and empties the queue. -/
def shutdown (b : Board) (now : Instant) : List Token × Board :=
  let (tokens, b) := cancelAll now (b.entries.map TaskEntry.id) b
  (tokens, { b with waiting := [] })

/-! ## The body of a task -/

/-- The body of a task begins; gives the task unless it was cancelled before. -/
def begin (b : Board) (id : TaskId) (now : Instant) : Option Task × Board :=
  match b.change id .running (fun t => { t with startedAt := some now }) now with
  | (true, b) => (b.get? id, b)
  | (false, b) => (none, b)

/-- How the engine of a task ended. -/
inductive Result where
  | answered (text : String)
  | cancelled
  | failed (text : String)
  deriving DecidableEq, Repr

def Result.state : Result → TaskState
  | answered _ => .completed
  | cancelled => .cancelled
  | failed _ => .failed

def Result.apply : Result → Task → Task
  | answered text, t => { t with result := some text }
  | cancelled, t => withError cancelledText t
  | failed text, t => withError text t

/-- The engine of a task has ended. -/
def finish (b : Board) (id : TaskId) (result : Result) (now : Instant) : Board :=
  (b.change id result.state result.apply now).2

/-- The body of a task is done and gives its slot back. -/
def vacate (b : Board) : Board :=
  ({ b with free := b.free + 1 } : Board).pump

/-! ## Looking at tasks -/

def list (b : Board) (f : TaskFilter) : List Task :=
  ((b.entries.map TaskEntry.task).filter f.accepts).mergeSort Task.notAfter

def runningCount (b : Board) : Nat :=
  (b.entries.filter fun e => e.state == .running).length

/-- Whether the body of an admitted task is still there. -/
def isAtWork (b : Board) : Bool :=
  decide (b.free < b.slots)

def isDone (b : Board) (id : TaskId) : Bool :=
  match b.find? id with
  | some e => e.state.isTerminal
  | none => false

/-- Why one cannot wait for a task. -/
def waitRefusal? (b : Board) (id : TaskId) : Option TaskError :=
  match b.find? id with
  | none => some (.notFound id)
  | some e => if e.isIdle then some (.notStarted id) else none

/-- The first reason why one cannot wait for tasks. -/
def waitRefusalAll? (b : Board) (ids : List TaskId) : Option TaskError :=
  ids.findSome? b.waitRefusal?

def records (b : Board) (ids : List TaskId) : List Task :=
  ids.filterMap b.get?

/-- What somebody who waited for a task gets. -/
def waited (b : Board) (id : TaskId) : Except TaskError Task :=
  match b.get? id with
  | none => .error (.notFound id)
  | some t => if t.state = .cancelled then .error (.cancelled t.id) else .ok t

/-- The first of some tasks that is done. -/
def firstDone? (b : Board) (ids : List TaskId) : Option Task :=
  (ids.find? b.isDone).bind b.get?

end Board

end AgentSessions
