import AgentSessions.Proofs.Task.Entries
import Mathlib.Logic.Relation

/-!
# The site

Everything that goes on around a board of tasks: the board, the bodies of the tasks that were
admitted, and what others have seen of them so far. `Site.Step` is one step, from one wait to the
next, and `Site.Runs` any number of steps. Nothing is said of who steps when, of whether an engine
can be built or of how it ends, so a statement about all runs covers every interleaving and every
engine.

Each step takes from the board what it leaves there, so the board is clear after every one
(`Runs.settled`).
-/

set_option autoImplicit false

namespace AgentSessions

/-! ## Sites -/

/-- How far the body of an admitted task has come. -/
inductive Body.Stage where
  /-- It waits for its turn. -/
  | opening
  /-- The task runs, and its engine is built. -/
  | building
  /-- The engine runs. -/
  | running
  deriving DecidableEq, Repr

/-- The state of a task whose body is at this stage, unless the task is done. -/
def Body.Stage.state : Body.Stage → TaskState
  | opening => .pending
  | building | running => .running

/-- The body of an admitted task. -/
structure Body where
  id : TaskId
  stage : Body.Stage
  deriving DecidableEq, Repr

/-- A board and the bodies at work. -/
structure Site where
  board : Board
  bodies : List Body
  /-- The changes that were published, oldest first. -/
  published : List TaskChange
  /-- The tasks that were submitted, in this order. -/
  submitted : List TaskId
  /-- The tasks that were admitted, in this order. -/
  admitted : List TaskId
  /-- What those were told who cancelled a task. -/
  answers : List (TaskId × Bool)

namespace Site

/-- Nothing was done yet. -/
def opening (maxConcurrent : Nat) (maxDepth : UInt32) (agentTypes : List String) : Site :=
  ⟨.empty maxConcurrent maxDepth agentTypes, [], [], [], [], []⟩

/-- Puts a step on the board into the site: its changes are published, and the bodies that it wants
started are started. -/
def put (s : Site) (b : Board) : Site :=
  { s with
    board := { b with changes := [], admitted := [] }
    published := s.published ++ b.changes
    admitted := s.admitted ++ b.admitted
    bodies := s.bodies ++ b.admitted.map fun id => ⟨id, .opening⟩ }

/-- The states of a task that were published. -/
def statesOf (s : Site) (id : TaskId) : List TaskState :=
  (s.published.filter fun c => c.id = id).map TaskChange.state

/-! ## Steps -/

/-- The task that is submitted, if it could be started. -/
def started (id : TaskId) (result : Except TaskError Task) : List TaskId :=
  if result.isOk then [id] else []

/-- Somebody creates a task. -/
def create (s : Site) (r : TaskRequest) (fresh : Board.Fresh) (now : Instant) : Site :=
  let (result, b) := s.board.create r fresh now
  { s with
    submitted := s.submitted ++ if r.autoStart then started fresh.task result else [] }.put b

/-- Somebody starts a task. -/
def start (s : Site) (id : TaskId) : Site :=
  let (result, b) := s.board.start id
  { s with submitted := s.submitted ++ started id result }.put b

/-- Somebody cancels a task. -/
def cancel (s : Site) (id : TaskId) (now : Instant) : Site :=
  let (token, b) := s.board.cancel id now
  { s with answers := s.answers ++ [(id, token.isSome)] }.put b

/-- What is answered when tasks are cancelled in turn. -/
def answersOf (now : Instant) : List TaskId → Board → List (TaskId × Bool)
  | [], _ => []
  | id :: rest, b =>
      let (token, b) := b.cancel id now
      (id, token.isSome) :: answersOf now rest b

/-- Somebody shuts the board down. -/
def shutdown (s : Site) (now : Instant) : Site :=
  let (_, b) := s.board.shutdown now
  { s with
    answers := s.answers ++ answersOf now (s.board.entries.map TaskEntry.id) s.board }.put b

/-- The body of a task begins; `others` are the bodies before and after it. A task that was
cancelled meanwhile does not begin, and its body is done. -/
def openBody (s : Site) (id : TaskId) (now : Instant) (others : List Body × List Body) : Site :=
  match s.board.begin id now with
  | (some _, b) => { s with bodies := others.1 ++ Body.mk id .building :: others.2 }.put b
  | (none, b) => { s with bodies := others.1 ++ others.2 }.put b.vacate

/-- The body of a task is done; `others` are the bodies before and after it. -/
def closeBody (s : Site) (id : TaskId) (result : Board.Result) (now : Instant)
    (others : List Body × List Body) : Site :=
  { s with bodies := others.1 ++ others.2 }.put (s.board.finish id result now).vacate

/-- One step at the site. -/
inductive Step : Site → Site → Prop where
  /-- No task has the identifier of a new one. -/
  | creates {s : Site} (r : TaskRequest) (fresh : Board.Fresh) (now : Instant) :
      s.board.find? fresh.task = none → Step s (s.create r fresh now)
  | starts (s : Site) (id : TaskId) : Step s (s.start id)
  | cancels (s : Site) (id : TaskId) (now : Instant) : Step s (s.cancel id now)
  | shutsDown (s : Site) (now : Instant) : Step s (s.shutdown now)
  /-- Somebody looks at the board, begins to wait for tasks or waits no longer. -/
  | waits (s : Site) : Step s s
  | opens {s : Site} {id : TaskId} {before after : List Body} (now : Instant) :
      s.bodies = before ++ ⟨id, .opening⟩ :: after → Step s (s.openBody id now (before, after))
  /-- The engine of a task is built and started. -/
  | builds {s : Site} {id : TaskId} {before after : List Body} :
      s.bodies = before ++ ⟨id, .building⟩ :: after →
      Step s { s with bodies := before ++ ⟨id, .running⟩ :: after }
  /-- The engine of a task cannot be built. -/
  | fails {s : Site} {id : TaskId} {before after : List Body} (text : String) (now : Instant) :
      s.bodies = before ++ ⟨id, .building⟩ :: after →
      Step s (s.closeBody id (.failed text) now (before, after))
  /-- The engine of a task ends, in whatever way. -/
  | ends {s : Site} {id : TaskId} {before after : List Body} (result : Board.Result)
      (now : Instant) :
      s.bodies = before ++ ⟨id, .running⟩ :: after →
      Step s (s.closeBody id result now (before, after))

/-- Any number of steps. -/
abbrev Runs : Site → Site → Prop := Relation.ReflTransGen Step

/-- A request for a task that starts at once. -/
def errand (description : String) : TaskRequest :=
  ⟨description, "general", .normal, none, true, 0⟩

/-- The identifiers of a task that is known by a name. -/
def named (name : String) : Board.Fresh :=
  ⟨⟨name⟩, ⟨name⟩, default⟩

theorem alone {s : Site} {body : Body} (h : s.bodies = [body]) : s.bodies = [] ++ body :: [] :=
  h

/-! ## Settled sites -/

/-- Nothing is left on the board that has yet to be taken from there. -/
structure Settled (s : Site) : Prop where
  changes : s.board.changes = []
  admitted : s.board.admitted = []

theorem settled_opening (maxConcurrent : Nat) (maxDepth : UInt32) (agentTypes : List String) :
    (opening maxConcurrent maxDepth agentTypes).Settled :=
  ⟨rfl, rfl⟩

theorem settled_put (s : Site) (b : Board) : (s.put b).Settled :=
  ⟨rfl, rfl⟩

theorem Settled.put_board {s : Site} (h : s.Settled) : s.put s.board = s := by
  obtain ⟨⟨entries, waiting, slots, free, maxDepth, agentTypes, changes, admitted⟩, _⟩ := s
  obtain ⟨rfl, rfl⟩ : changes = [] ∧ admitted = [] := ⟨h.changes, h.admitted⟩
  simp [put]

/-- A step settles what it leaves on the board. -/
theorem Step.settled {s s' : Site} (h : Step s s') (hs : s.Settled) : s'.Settled := by
  cases h with
  | creates r fresh now hnew => exact settled_put _ _
  | starts id => exact settled_put _ _
  | cancels id now => exact settled_put _ _
  | shutsDown now => exact settled_put _ _
  | waits => exact hs
  | opens now hbodies =>
      unfold openBody
      split
      · exact settled_put _ _
      · exact settled_put _ _
  | builds hbodies => exact ⟨hs.changes, hs.admitted⟩
  | fails text now hbodies => exact settled_put _ _
  | ends result now hbodies => exact settled_put _ _

theorem Runs.settled {s s' : Site} (h : Runs s s') (hs : s.Settled) : s'.Settled := by
  induction h with
  | refl => exact hs
  | tail _ hstep ih => exact hstep.settled ih

end Site

end AgentSessions
