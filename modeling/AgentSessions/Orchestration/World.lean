import AgentSessions.Event.Emitter
import AgentSessions.Ident
import AgentSessions.Orchestration.Activity
import AgentSessions.Simulation.Proc
import AgentSessions.Task.Board
import AgentSessions.Warning

/-!
# The world of a simulation

Everything that processes share: the tokens, the identifiers handed out so far, the events and the
warnings in the order in which they came, the desk, the board of tasks, and the state `η` of the
collaborators (models, tools, stores) that come from elsewhere.

Time is virtual. It starts with the year 2024 and only moves when every process waits.
-/

set_option autoImplicit false

namespace AgentSessions

open Simulation (Proc)

/-- Work that has yet to be started in the background. -/
inductive Start where
  | drain (id : SessionId)
  | body (id : TaskId)
  deriving DecidableEq, Repr

/-- What processes share. -/
structure World (η : Type) where
  host : η
  nextToken : Nat
  tripped : List Token
  /-- How many identifiers were handed out. -/
  minted : Nat
  events : Array Event
  warnings : Array Warning
  desk : Desk
  board : Board
  /-- The work that has yet to be started, first come first. -/
  starts : List Start
  /-- Whether somebody holds the scheduler of tasks. -/
  schedulerHeld : Bool
  /-- What activities in the background reported, by ticket. -/
  reports : List (Nat × Report)

abbrev Act (η : Type) := Proc (World η)

namespace World

variable {η : Type}

def new (host : η) (desk : Desk) (board : Board) : World η where
  host := host
  nextToken := 0
  tripped := []
  minted := 0
  events := #[]
  warnings := #[]
  desk := desk
  board := board
  starts := []
  schedulerHeld := true
  reports := []

/-- The start of time, in milliseconds from the start of 1970. -/
def epochMillis : Nat := 1704067200000

/-- The instant that is so many milliseconds from the start of time. The clock counts nanoseconds
and started one after a full millisecond, so every fraction is written with nine digits. -/
def instantAt (millis : Nat) : Instant :=
  .ofMillis (epochMillis + millis) 1

/-! ## Tokens -/

/-- A token that nobody has. -/
def freshToken (w : World η) : Token × World η :=
  (⟨w.nextToken⟩, { w with nextToken := w.nextToken + 1 })

def isTripped (token : Token) (w : World η) : Bool :=
  w.tripped.contains token

def trip (token : Token) (w : World η) : World η :=
  if w.isTripped token then w else { w with tripped := token :: w.tripped }

def tripAll (tokens : List Token) (w : World η) : World η :=
  tokens.foldl (fun w t => w.trip t) w

/-! ## Identifiers -/

/-- Hands out an identifier. -/
def mint {α : Type} (make : (millis counter : Nat) → α) (now : Nat) (w : World η) : α × World η :=
  (make (epochMillis + now) w.minted, { w with minted := w.minted + 1 })

/-! ## Events and warnings -/

def publish (session : SessionId) (body : EventBody) (now : Nat) (w : World η) : World η :=
  { w with events := w.events.push ⟨session.text, (instantAt now).text, body⟩ }

def warn (warning : Warning) (w : World η) : World η :=
  { w with warnings := w.warnings.push warning }

/-! ## The desk and the board -/

/-- Puts a step at the desk into the world; drains that it wants started are noted. -/
def putDesk (desk : Desk) (w : World η) : World η :=
  { w with
    desk := { desk with drains := [] }
    starts := w.starts ++ desk.drains.map .drain }

/-- The event of a change of a task. -/
def changeEvent (now : Nat) (c : TaskChange) : Event :=
  .ofTask c.parent c.id c.state.name (instantAt now).text

/-- Puts a step on the board into the world: its changes are published, and the bodies that it wants
started are noted. -/
def putBoard (now : Nat) (board : Board) (w : World η) : World η :=
  { w with
    board := { board with changes := [], admitted := [] }
    events := w.events ++ board.changes.map (changeEvent now)
    starts := w.starts ++ board.admitted.map .body }

/-- Whether the scheduler of tasks is still there: somebody holds it, or a body is at work. -/
def hasScheduler (w : World η) : Bool :=
  w.schedulerHeld || w.board.isAtWork

end World

namespace Act

variable {η α : Type}

/-- The milliseconds since the start of time. -/
def millis : Act η Nat := .clock .done

def now : Act η Instant := do
  pure (World.instantAt (← millis))

instance : MonadWarn (Proc (World η)) := ⟨fun w => Proc.modify (World.warn w)⟩

def trip (token : Token) : Act η Unit :=
  Proc.modify (World.trip token)

/-- A step on the board: what it gives, what it leaves of the board, and the tokens that it
trips. -/
def onBoard (step : Board → Instant → (α × List Token) × Board) : Act η α := do
  let now ← millis
  Proc.modifyGet fun w =>
    let ((a, tokens), board) := step w.board (World.instantAt now)
    (a, (w.putBoard now board).tripAll tokens)

end Act

end AgentSessions
