import AgentSessions.Event
import AgentSessions.Ident
import AgentSessions.Task.Basic

/-!
# Publishing events

Events are published to all who subscribed. The emitter keeps the most recent ones, as many as its
capacity; a receiver that falls further behind is told how many it lost and goes on with the oldest
that is kept. An event that is published when nobody listens is counted and forgotten.
-/

set_option autoImplicit false

namespace AgentSessions

/-- A receiver: the number of the event that it gets next. -/
structure Receiver where
  next : Nat
  deriving DecidableEq, Repr

structure Emitter where
  capacity : Nat
  /-- The most recent events, the latest last. -/
  kept : List Event
  /-- How many events were sent to receivers. -/
  sent : Nat
  emitted : Nat
  receivers : Nat
  deriving DecidableEq

inductive Reception where
  | event (e : Event)
  | empty
  | lagged (lost : Nat)
  deriving DecidableEq

namespace Emitter

def defaultCapacity : Nat := 1024

/-- The smallest power of two that is not below `n`. -/
def powerOfTwo (n : Nat) : Nat :=
  if n ≤ 1 then 1 else Nat.pow 2 ((n - 1).log2 + 1)

/-- An emitter that keeps at least `capacity` events. -/
def withCapacity (capacity : Nat) : Emitter :=
  ⟨powerOfTwo capacity, [], 0, 0, 0⟩

/-- Publishes an event; gives how many receive it. -/
def emit (em : Emitter) (e : Event) : Nat × Emitter :=
  if em.receivers = 0 then (0, { em with emitted := em.emitted + 1 })
  else
    let kept := em.kept ++ [e]
    (em.receivers,
      { em with
        kept := kept.drop (kept.length - em.capacity)
        sent := em.sent + 1
        emitted := em.emitted + 1 })

/-- A new receiver, for what is published from now on. -/
def subscribe (em : Emitter) : Receiver × Emitter :=
  (⟨em.sent⟩, { em with receivers := em.receivers + 1 })

def unsubscribe (em : Emitter) : Emitter :=
  { em with receivers := em.receivers - 1 }

def oldest (em : Emitter) : Nat :=
  em.sent - em.kept.length

def receive (em : Emitter) (r : Receiver) : Reception × Receiver :=
  if r.next < em.sent - em.capacity then
    (.lagged (em.sent - em.capacity - r.next), ⟨em.sent - em.capacity⟩)
  else
    match em.kept[r.next - em.oldest]? with
    | some e => if r.next < em.sent then (.event e, ⟨r.next + 1⟩) else (.empty, r)
    | none => (.empty, r)

end Emitter

namespace Event

/-- The event of a change of a task. It belongs to the session that delegated the task, and to the
task itself when there is none. -/
def ofTask (parent : Option SessionId) (id : TaskId) (state timestamp : String) : Event :=
  ⟨(parent.map SessionId.text).getD id.text, timestamp, .taskStateChanged id.text state⟩

end Event

end AgentSessions
