import AgentSessions.Queue.Manager
import AgentSessions.Warning

/-!
# Leases on a queue

Whoever works on a session holds its lease, under a name of its own. A lease that is dropped gives
its session free; so does one whose name is taken for another lease.
-/

set_option autoImplicit false

namespace AgentSessions

/-- A queue and the leases on it that are held, by name. -/
structure LeaseBook where
  queue : QueueManager
  leases : List (String × SessionId)

namespace LeaseBook

def empty (maxBacklog : Option Nat) : LeaseBook := ⟨.empty maxBacklog, []⟩

def held? (k : LeaseBook) (name : String) : Option SessionId :=
  k.leases.lookup name

/-- Gives a session free; one on which nobody is at work makes a warning. -/
def release (k : LeaseBook) (id : SessionId) : LeaseBook × List Warning :=
  match k.queue.release? id with
  | some q => ({ k with queue := q }, [])
  | none => (k, [.releaseNotAcquired id.text])

def drop (k : LeaseBook) (name : String) : LeaseBook × List Warning :=
  match k.held? name with
  | some id => { k with leases := k.leases.filter fun l => l.1 != name }.release id
  | none => (k, [])

/-- Takes the lease of a session under a name, unless somebody is at work on the session. -/
def lease? (k : LeaseBook) (name : String) (id : SessionId) : Option (LeaseBook × List Warning) :=
  (k.queue.acquire? id).map fun q =>
    let (k, warnings) := { k with queue := q }.drop name
    ({ k with leases := (name, id) :: k.leases }, warnings)

end LeaseBook

end AgentSessions
