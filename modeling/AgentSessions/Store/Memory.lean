import AgentSessions.History.Snapshot

/-!
# Stores in memory

A store keeps the last snapshot of every session.
-/

set_option autoImplicit false

namespace AgentSessions

/-- The snapshots that are kept, by session. -/
structure MemoryStore where
  sessions : Dict Snapshot
  deriving DecidableEq

namespace MemoryStore

def empty : MemoryStore := ⟨.empty⟩

instance : Inhabited MemoryStore := ⟨empty⟩

def load (s : MemoryStore) (id : SessionId) : Option Snapshot :=
  s.sessions.get? id.text

/-- Keeps a snapshot of a session in place of its former one. -/
def save (s : MemoryStore) (id : SessionId) (snapshot : Snapshot) : MemoryStore :=
  ⟨s.sessions.insert id.text snapshot⟩

def size (s : MemoryStore) : Nat :=
  s.sessions.size

def isEmpty (s : MemoryStore) : Bool :=
  s.sessions.isEmpty

end MemoryStore

end AgentSessions
