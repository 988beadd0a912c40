import AgentSessions.Queue.Message
import AgentSessions.Text.Quoted
import AgentSessions.Dict

/-!
# Sessions at work and the prompts that wait for them

For every session it is known whether somebody is at work on it and which prompts wait, those of
higher priority first and equal ones in the order of arrival. An entry is opened when a session is
first acquired or a prompt first offered to it, and dropped when a release, a prompt taken out or a
clearing leaves it idle with nothing waiting.

Who works on a session holds its lease. `acquire` takes it and never waits; `release` gives it up.
-/

set_option autoImplicit false

namespace AgentSessions

structure QueueEntry where
  busy : Bool
  backlog : List QueuedMessage
  deriving DecidableEq

namespace QueueEntry

def idle : QueueEntry := ⟨false, []⟩

instance : Inhabited QueueEntry := ⟨idle⟩

def isIdle (e : QueueEntry) : Bool :=
  !e.busy && e.backlog.isEmpty

end QueueEntry

/-- The entries of all sessions, and how many prompts may wait for one of them. -/
structure QueueManager where
  entries : Dict QueueEntry
  /-- The value `none` is without limit. -/
  maxBacklog : Option Nat
  deriving DecidableEq

namespace QueueManager

def empty (maxBacklog : Option Nat) : QueueManager := ⟨.empty, maxBacklog⟩

def entry (q : QueueManager) (id : SessionId) : QueueEntry :=
  (q.entries.get? id.text).getD .idle

def set (q : QueueManager) (id : SessionId) (e : QueueEntry) : QueueManager :=
  { q with entries := q.entries.insert id.text e }

/-- Drops the entry of a session when it is idle. -/
def prune (q : QueueManager) (id : SessionId) : QueueManager :=
  { q with entries :=
      match q.entries.get? id.text with
      | some e => if e.isIdle then q.entries.erase id.text else q.entries
      | none => q.entries }

/-- The queue with another entry for a session, which is dropped when it is idle. -/
def put (q : QueueManager) (id : SessionId) (e : QueueEntry) : QueueManager :=
  (q.set id e).prune id

def isBusy (q : QueueManager) (id : SessionId) : Bool :=
  (q.entry id).busy

/-- The prompts that wait for a session, in the order in which they will run. -/
def waiting (q : QueueManager) (id : SessionId) : List QueuedMessage :=
  (q.entry id).backlog

def waitingCount (q : QueueManager) (id : SessionId) : Nat :=
  (q.waiting id).length

/-- Takes the lease of a session; `none` when it is held. -/
def acquire? (q : QueueManager) (id : SessionId) : Option QueueManager :=
  let e := q.entry id
  if e.busy then none else some (q.set id { e with busy := true })

/-- Gives up the lease of a session; `none` when nobody holds it. -/
def release? (q : QueueManager) (id : SessionId) : Option QueueManager :=
  let e := q.entry id
  if e.busy then some (q.put id { e with busy := false }) else none

def release (q : QueueManager) (id : SessionId) : QueueManager :=
  (q.release? id).getD q

/-- A message put behind all that have at least its priority. -/
def insertByPriority (m : QueuedMessage) : List QueuedMessage → List QueuedMessage
  | [] => [m]
  | queued :: rest =>
      if queued.priority < m.priority then m :: queued :: rest
      else queued :: insertByPriority m rest

/-- Whether there is no room for one more prompt. -/
def isFull (q : QueueManager) (id : SessionId) : Bool :=
  match q.maxBacklog with
  | none => false
  | some capacity => decide (capacity ≤ q.waitingCount id)

/-- Offers a message to its session: why it is refused, if it is, and the queue afterwards. The
entry of the session is opened before there is a look at the room in it. -/
def offer (q : QueueManager) (m : QueuedMessage) : Option QueueError × QueueManager :=
  let e := q.entry m.sessionId
  if q.isFull m.sessionId then
    (some (.full m.sessionId (q.maxBacklog.getD 0)), q.set m.sessionId e)
  else (none, q.set m.sessionId { e with backlog := insertByPriority m e.backlog })

def enqueue (q : QueueManager) (m : QueuedMessage) : Except QueueError QueueManager :=
  match q.offer m with
  | (none, q') => .ok q'
  | (some e, _) => .error e

/-- Takes the next message of a session, if there is one, and drops the entry when it is idle. -/
def take (q : QueueManager) (id : SessionId) : Option QueuedMessage × QueueManager :=
  match q.entries.get? id.text with
  | none => (none, q)
  | some e => (e.backlog.head?, q.put id { e with backlog := e.backlog.tail })

def dequeue (q : QueueManager) (id : SessionId) : Option (QueuedMessage × QueueManager) :=
  match q.take id with
  | (some m, q') => some (m, q')
  | (none, _) => none

def clear (q : QueueManager) (id : SessionId) : QueueManager :=
  q.put id { q.entry id with backlog := [] }

/-- The sessions on which somebody is at work, sorted. -/
def busySessions (q : QueueManager) : List SessionId :=
  (q.entries.entries.filter fun e => e.2.busy).map fun e => ⟨e.1⟩

end QueueManager

/-- A lease as it is shown to a person. -/
def SessionId.leaseText (id : SessionId) : String :=
  "SessionLease \x7b session_id: SessionId(" ++ Text.quoted id.text ++ "), .. \x7d"

end AgentSessions
