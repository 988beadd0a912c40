import AgentSessions.Queue.Manager
import AgentSessions.Run.Outcome
import AgentSessions.Token

/-!
# The desk

The desk is where prompts come in and where work on sessions is handed over. It knows who is at work
and what waits, the tokens of the engines that run, and the leases that are handed to drains. A
drain works off what waits for a session and is started in the background.

Whoever gives up a lease looks at the backlog: a backlog is handed to a drain together with the
lease, and one that comes up while the lease is given up is taken care of by `kick`.
-/

set_option autoImplicit false

namespace AgentSessions

structure Desk where
  queue : QueueManager
  /-- The tokens of the engines that run, by session. -/
  active : Dict Token
  /-- The sessions whose leases are handed to drains that have yet to be started, oldest first. -/
  drains : List SessionId
  deriving DecidableEq

/-- What becomes of a prompt that comes in. -/
inductive Admission where
  | granted
  | busy
  | full (e : QueueError)
  /-- The prompt waits, together with so many in all. -/
  | queued (m : QueuedMessage) (count : Nat)
  deriving DecidableEq

namespace Desk

def empty (maxBacklog : Option Nat) : Desk := ⟨.empty maxBacklog, .empty, []⟩

/-- Hands the lease of a session to a drain. -/
def handToDrain (d : Desk) (id : SessionId) : Desk :=
  { d with drains := d.drains ++ [id] }

def release (d : Desk) (id : SessionId) : Desk :=
  { d with queue := d.queue.release id }

def lease? (d : Desk) (id : SessionId) : Option Desk :=
  (d.queue.acquire? id).map fun q => { d with queue := q }

/-- Has a drain started for a session with a backlog on which nobody is at work. -/
def kick (d : Desk) (id : SessionId) : Desk :=
  if d.queue.waitingCount id = 0 then d
  else
    match d.lease? id with
    | none => d
    | some d => d.handToDrain id

/-- Gives up the lease of a session after a piece of work on it. -/
def handOff (d : Desk) (id : SessionId) : Desk :=
  if d.queue.waitingCount id = 0 then (d.release id).kick id else d.handToDrain id

/-- The next prompt for a drain. A drain that finds none gives up its lease. -/
def next (d : Desk) (id : SessionId) : Option QueuedMessage × Desk :=
  match d.queue.dequeue id with
  | some (m, q) => (some m, { d with queue := q })
  | none => (none, (d.release id).kick id)

/-- A prompt comes in. It runs when nobody is at work on its session, and otherwise waits if
`queueIfBusy`. -/
def receive (d : Desk) (m : QueuedMessage) (queueIfBusy : Bool) : Admission × Desk :=
  match d.lease? m.sessionId with
  | some d => (.granted, d)
  | none =>
      if !queueIfBusy then (.busy, d)
      else
        match d.queue.enqueue m with
        | .error e => (.full e, d)
        | .ok q =>
            let d := { d with queue := q }
            (.queued m (d.queue.waitingCount m.sessionId), d.kick m.sessionId)

def register (d : Desk) (id : SessionId) (token : Token) : Desk :=
  { d with active := d.active.insert id.text token }

def unregister (d : Desk) (id : SessionId) : Desk :=
  { d with active := d.active.erase id.text }

def running? (d : Desk) (id : SessionId) : Option Token :=
  d.active.get? id.text

def clearBacklog (d : Desk) (id : SessionId) : Desk :=
  { d with queue := d.queue.clear id }

end Desk

end AgentSessions
