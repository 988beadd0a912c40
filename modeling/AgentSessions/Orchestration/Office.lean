import AgentSessions.Orchestration.Service
import AgentSessions.Simulation.Pool
import AgentSessions.Task.Delegation
import AgentSessions.Task.Operations

/-!
# Everything at work

An `Office` brings the parts together: prompts come in at the desk, activities on sessions and the
bodies of tasks run in the background, and engines are served by their collaborators. It is the
program of a pool of threads: it says what a thread does next when what it waited for has come, and
which threads the desk and the board want started.
-/

set_option autoImplicit false

namespace AgentSessions

open Simulation (Proc Pool Program)

/-- How far the body of a task has come. -/
inductive BodyStage where
  | opening
  | running
  | closing (result : Board.Result)
  deriving DecidableEq, Repr

structure Incoming where
  session : SessionId
  prompt : String
  priority : Priority
  /-- Whether it may wait when its session is busy. -/
  queueIfBusy : Bool
  deriving DecidableEq, Repr

/-- What a thread in the background does. -/
inductive Work where
  | arrival (incoming : Incoming) (ticket : Nat)
  /-- An activity on a session; the ticket is for the one who asked for it. -/
  | session (activity : Activity) (ticket : Option Nat)
  | body (id : TaskId) (stage : BodyStage)
  /-- A small thing that nobody waits for. -/
  | errand
  deriving DecidableEq, Repr

structure Office (η : Type) where
  collaborators : Collaborators η
  engine : EngineSettings
  systemPrompt : Option String
  build : String → UInt32 → Except TaskError (Delegation.SubAgent (Act η))

namespace Office

variable {η : Type}

/-! ## Activities on sessions -/

/-- The job of an activity as a process. -/
def perform (o : Office η) : Job → Act η Answer
  | .load id => Answer.loaded <$> o.collaborators.load id
  | .run session prompt token => do
      let setup := o.collaborators.setup o.engine o.systemPrompt 0
      let (_, result) ←
        o.collaborators.serve ⟨session.id, 0, token⟩ (Engine.run setup session prompt)
      pure (.ran result)
  | .wipe session => do
      let (_, result) ← o.collaborators.serve ⟨session.id, 0, ⟨0⟩⟩ (Engine.clear session)
      pure (.wiped result)

def advance (a : Activity) (answer : Answer) (w : World η) : Course × World η :=
  let (fresh, w) := w.freshToken
  let (course, desk) := a.advance fresh answer w.desk
  (course, w.putDesk desk)

def abandon (a : Activity) (w : World η) : World η :=
  w.putDesk (a.abandon w.desk)

/-- Keeps a report for the one who asked for it. -/
def deliver (ticket : Option Nat) (report : Report) (w : World η) : World η :=
  match ticket with
  | some n => { w with reports := w.reports ++ [(n, report)] }
  | none => w

/-- What becomes of a prompt at once: a reply, or an activity that holds the lease of its
session. -/
inductive Received where
  | replied (result : Except RunError RunReply)
  | runs (activity : Activity)

def receive (p : Incoming) (now : Nat) (w : World η) : Received × World η :=
  let (id, w) := w.mint MessageId.fresh now
  let m : QueuedMessage := ⟨id, p.session, p.prompt, p.priority, .empty, World.instantAt now⟩
  let (admission, desk) := w.desk.receive m p.queueIfBusy
  let w := w.putDesk desk
  match admission with
  | .granted => (.runs (.direct p.session p.prompt), w)
  | .busy => (.replied (.error (.busy p.session)), w)
  | .full e => (.replied (.error (.queue e)), w)
  | .queued m count =>
      (.replied (.ok (.queued m)),
        w.publish p.session (.messageQueued m.id.text (UInt64.ofNat count)) now)

/-! ## Bodies of tasks -/

/-- The result of a task whose engine has ended. -/
def resultOf : Except RunError RunSummary → Board.Result
  | .ok summary => .answered summary.text
  | .error .cancelled => .cancelled
  | .error e => .failed e.message

def panicked : Board.Result := .failed "sub-agent aborted: panic"

/-- The engine of a task as a process. It is started as a thread of its own and waited for, so
others come in before and after it. -/
def runTask (o : Office η) (task : Task) (token : Token)
    (agent : Delegation.SubAgent (Act η)) : Act η Answer := do
  .pause (pure ())
  let c := { o.collaborators with tools := agent.tools }
  let setup := c.setup agent.settings agent.systemPrompt agent.depth
  let (_, result) ←
    c.serve ⟨task.childSessionId, agent.depth, token⟩
      (Engine.run setup (.empty task.childSessionId) task.description)
  .pause (pure ())
  pure (.ran result)

/-- Takes down the result of a task and gives its slot back. -/
def closeBody (id : TaskId) (result : Board.Result) (now : Nat) (w : World η) : World η :=
  let board := w.board.finish id result (World.instantAt now)
  w.putBoard now board.vacate

def openBody (o : Office η) (id : TaskId) (now : Nat) (w : World η) :
    World η × Option (Work × Act η Answer) :=
  match w.board.begin id (World.instantAt now) with
  | (none, board) => (w.putBoard now board.vacate, none)
  | (some task, board) =>
      let w := w.putBoard now board
      match o.build task.agentType task.depth with
      | .error e => (closeBody id (.failed e.message) now w, none)
      | .ok agent =>
          let token := ((w.board.find? id).map TaskEntry.token).getD default
          (w, some (.body id .running, o.runTask task token agent))

/-! ## Threads -/

/-- What a thread does next when its process has ended. -/
def resume (o : Office η) (now : Nat) : Work → Simulation.Ending Answer → World η →
    World η × Option (Work × Act η Answer)
  | .arrival incoming ticket, .returned _, w =>
      match receive incoming now w with
      | (.replied result, w) => (deliver ticket (.replied result) w, none)
      | (.runs a, w) =>
          (w, some (.session a ticket, o.perform (.load incoming.session)))
  | .arrival _ ticket, _, w => (deliver ticket .cutShort w, none)
  | .session a ticket, .returned answer, w =>
      match advance a answer w with
      | (.goesOn a job, w) => (w, some (.session a ticket, o.perform job))
      | (.ended report, w) => (deliver ticket report w, none)
  | .session a ticket, _, w => (deliver ticket .cutShort (abandon a w), none)
  | .body id .opening, .returned _, w => o.openBody id now w
  | .body id .running, .returned (.ran result), w => (closeBody id (resultOf result) now w, none)
  | .body id .running, _, w =>
      (w, some (.body id (.closing panicked), .pause (.done .ready)))
  | .body id (.closing result), _, w => (closeBody id result now w, none)
  | .body id .opening, _, w => (closeBody id panicked now w, none)
  | .errand, _, w => (w, none)

def thread : Start → Work × Act η Answer
  | .drain id => (.session (.drain id) none, .done .ready)
  | .body id => (.body id .opening, .done .ready)

/-- The threads that have to be started. -/
def started (w : World η) : List (Work × Act η Answer) × World η :=
  (w.starts.map thread, { w with starts := [] })

/-- The office as the program of a pool of threads. -/
def program (o : Office η) : Program (World η) Work Answer :=
  ⟨o.resume, started⟩

end Office

end AgentSessions
