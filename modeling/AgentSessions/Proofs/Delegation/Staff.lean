import AgentSessions.Orchestration.Opening
import AgentSessions.Proofs.Task.Calls
import Mathlib.Logic.Relation

/-!
# The staff of an office

The engines that an office has started so far, with the world in which they work, and the tasks that
they have delegated. `Staff.Step` is one step: somebody asks something of the board, an engine is
started at the top level, the body of a task begins and its engine is built, or an engine calls the
task tool. Everything else (what models and other tools do, what happens at the desk) is a step that
leaves the board as it is. Nothing is said of who steps when, so `Staff.Runs` has every chain of
delegations in any order.

Each step is a step of the office itself: requests and calls are the processes that are served, and
the body of a task begins by `Office.openBody`. What an engine asks for goes through its own
registry of tools (`Member.call`), as in the processes of the office (`perform_run`,
`runTask_serves`).
-/

set_option autoImplicit false

namespace AgentSessions

open Json (Object)
open Simulation (Proc Progress advance)

variable {η : Type}

/-! ## Engines -/

/-- An engine that was started: where it works, with which tools, and for which task. One at the top
level works for none. -/
structure Member (η : Type) where
  seat : Seat
  tools : ToolRegistry (Act η)
  task : Option TaskId

namespace Member

/-- Those with whom the engine works. -/
def collaborators (o : Office η) (m : Member η) : Collaborators η :=
  { o.collaborators with tools := m.tools }

/-- The engine calls a tool. -/
def call (o : Office η) (m : Member η) (tool : String) (arguments : Object) (id : CallId) :
    Act η (Option ToolOutcome) :=
  (m.collaborators o).answer m.seat (.execute tool arguments id)

/-- Who calls, as the tool sees it. -/
def context (m : Member η) (id : CallId) : ToolContext :=
  ⟨m.seat.session, id, m.seat.depth, m.seat.token⟩

end Member

namespace Office

/-- The engine of a session at the top level. -/
def attendant (o : Office η) (session : SessionId) (token : Token) : Member η :=
  ⟨⟨session, 0, token⟩, o.collaborators.tools, none⟩

/-- The engine that is built for a task. -/
def recruitOf (id : TaskId) (task : Task) (token : Token) (agent : Delegation.SubAgent (Act η)) :
    Member η :=
  ⟨⟨task.childSessionId, agent.depth, token⟩, agent.tools, some id⟩

/-- The engine that is started when the body of a task begins. -/
def recruit (o : Office η) (id : TaskId) (now : Nat) (w : World η) : Option (Member η) :=
  match w.board.begin id (World.instantAt now) with
  | (none, _) => none
  | (some task, board) =>
      match o.build task.agentType task.depth with
      | .error _ => none
      | .ok agent =>
          some (recruitOf id task (((board.find? id).map TaskEntry.token).getD default) agent)

/-- A prompt at the top level is run by an attendant. -/
theorem perform_run (o : Office η) (session : Session) (prompt : String) (token : Token) :
    o.perform (.run session prompt token) = (do
      let m := o.attendant session.id token
      let setup := (m.collaborators o).setup o.engine o.systemPrompt m.seat.depth
      let (_, result) ← (m.collaborators o).serve m.seat (Engine.run setup session prompt)
      pure (.ran result)) :=
  rfl

/-- A task is run by the engine that is built for it. -/
theorem runTask_serves (o : Office η) (id : TaskId) (task : Task) (token : Token)
    (agent : Delegation.SubAgent (Act η)) :
    o.runTask task token agent = (do
      .pause (pure ())
      let m := recruitOf id task token agent
      let setup := (m.collaborators o).setup agent.settings agent.systemPrompt m.seat.depth
      let (_, result) ← (m.collaborators o).serve m.seat
        (Engine.run setup (.empty task.childSessionId) task.description)
      .pause (pure ())
      pure (.ran result)) :=
  rfl

/-- When the body of a task begins, its engine is started, or there is nothing left to do. -/
theorem openBody_recruits (o : Office η) (id : TaskId) (now : Nat) (w : World η) :
    (o.openBody id now w).2 = none ∧ o.recruit id now w = none ∨
      ∃ task token agent,
        (o.openBody id now w).2 = some (.body id .running, o.runTask task token agent) ∧
          o.recruit id now w = some (recruitOf id task token agent) := by
  unfold openBody recruit
  obtain ⟨begun, board⟩ := w.board.begin id (World.instantAt now)
  cases begun with
  | none => exact .inl ⟨rfl, rfl⟩
  | some task =>
      dsimp only
      cases hbuild : o.build task.agentType task.depth with
      | error e => exact .inl ⟨rfl, rfl⟩
      | ok agent => exact .inr ⟨task, _, agent, rfl, rfl⟩

end Office

/-! ## Steps -/

/-- The engines that were started so far, the world in which they work, and the tasks that they have
delegated. -/
structure Staff (η : Type) where
  world : World η
  members : List (Member η)
  delegations : List (Member η × TaskId)

namespace Staff

/-- Nobody was started yet. -/
def opening (host : η) (queue : QueueSettings) (tasks : TaskSettings) : Staff η :=
  ⟨Office.opening host queue tasks, [], []⟩

/-- The tasks that are new on a board. -/
def newTasks (before after : Board) : List TaskId :=
  (after.entries.map TaskEntry.id).filter fun id => (before.find? id).isNone

/-- An engine calls the task tool. What is new on the board is what it has delegated. -/
def delegate (s : Staff η) (o : Office η) (m : Member η) (arguments : Object) (id : CallId)
    (now : Nat) : Staff η :=
  let world := (advance now (m.call o TaskTool.name arguments id) [] s.world).state
  { s with
    world := world
    delegations := s.delegations ++
      (newTasks s.world.board world.board).map fun task => (m, task) }

/-- The body of a task begins. -/
def openBody (s : Staff η) (o : Office η) (id : TaskId) (now : Nat) : Staff η :=
  { s with
    world := (o.openBody id now s.world).1
    members := s.members ++ (o.recruit id now s.world).toList }

/-- One step of an office that delegates with the task tool under these settings. -/
inductive Step (o : Office η) (tasks : TaskSettings) : Staff η → Staff η → Prop where
  /-- Somebody else creates a task. No task has the identifier of a new one. -/
  | creates {s : Staff η} (r : TaskRequest) (now : Nat) :
      s.world.board.find? (s.world.nextFresh now).task = none →
      Step o tasks s { s with world := (advance now (Tasks.create r) [] s.world).state }
  | starts (s : Staff η) (id : TaskId) (now : Nat) :
      Step o tasks s { s with world := (advance now (Tasks.start id) [] s.world).state }
  | cancels (s : Staff η) (id : TaskId) (now : Nat) :
      Step o tasks s { s with world := (advance now (Tasks.cancel id) [] s.world).state }
  | shutsDown (s : Staff η) (now : Nat) :
      Step o tasks s { s with world := (advance now Tasks.shutdown [] s.world).state }
  /-- A prompt at the top level is run. -/
  | attends (s : Staff η) (session : SessionId) (token : Token) :
      Step o tasks s { s with members := s.members ++ [o.attendant session token] }
  /-- An engine calls the task tool of the scheduler. -/
  | delegates {s : Staff η} {m : Member η} (arguments : Object) (id : CallId) (now : Nat) :
      m ∈ s.members → m.tools.get? TaskTool.name = some (TaskTool.tool tasks) →
      s.world.board.find? (s.world.nextFresh now).task = none →
      Step o tasks s (s.delegate o m arguments id now)
  /-- The body of a task begins. -/
  | opens (s : Staff η) (id : TaskId) (now : Nat) : Step o tasks s (s.openBody o id now)
  /-- The engine of a task has ended. -/
  | closes (s : Staff η) (id : TaskId) (result : Board.Result) (now : Nat) :
      Step o tasks s { s with world := Office.closeBody id result now s.world }
  /-- Whatever else goes on. -/
  | goesOn {s : Staff η} (world : World η) :
      world.board = s.world.board → Step o tasks s { s with world := world }

/-- Any number of steps. -/
abbrev Runs (o : Office η) (tasks : TaskSettings) : Staff η → Staff η → Prop :=
  Relation.ReflTransGen (Step o tasks)

/-! ## A small office

Someone at the top level delegates to an agent that may do nothing but delegate, and that one
delegates to an agent without restrictions. -/

namespace Chain

/-- A tool that reads. -/
def reader : Tool (Act Unit) :=
  ⟨"read", ⟨"read", "Reads.", .object []⟩, fun _ _ => pure (.ok (.ok "text"))⟩

/-- Collaborators with one tool. -/
def crew : Collaborators Unit where
  model _ := .hang
  tools := ToolRegistry.ofTools [reader]
  preChecks := []
  postChecks := []
  confirm := none
  compaction := none
  summarize _ := .hang
  load _ := pure (.ok none)
  save _ _ := pure (.ok ())

/-- A profile without restrictions, and one that allows to delegate. -/
def settings : TaskSettings :=
  { (default : TaskSettings) with
    maxDepth := 2
    agents := .ofList
      [("general", default), ("limited", ⟨"", some ["task"], "", none⟩)] }

/-- Arguments that ask for an agent. -/
def asksFor (agentType : String) : Object :=
  .ofMembers
    [("action", .string "create"), ("agentType", .string agentType),
      ("description", .string "look")]

def office : Office Unit := .ofSettings crew none default settings

def top : Member Unit := office.attendant ⟨"s"⟩ ⟨0⟩

/-- The top level has asked for an agent that may only delegate. -/
def first : Staff Unit :=
  { opening () default settings with members := [top] }.delegate office top (asksFor "limited")
    ⟨"a"⟩ 0

def task (counter : Nat) : TaskId := .fresh World.epochMillis counter

/-- That agent is there. -/
def second : Staff Unit := first.openBody office (task 0) 0

def limited : Member Unit := second.members.get ⟨1, by decide⟩

/-- It has asked for an agent without restrictions. -/
def third : Staff Unit := second.delegate office limited (asksFor "general") ⟨"b"⟩ 0

/-- That agent is there. -/
def last : Staff Unit := third.openBody office (task 2) 0

def general : Member Unit := last.members.get ⟨2, by decide⟩

theorem limited_mem : limited ∈ second.members :=
  List.get_mem _ _

theorem runs : Runs office settings (opening () default settings) last := by
  have hfirst : Runs office settings (opening () default settings) first :=
    .tail (.single (.attends _ ⟨"s"⟩ ⟨0⟩))
      (.delegates (asksFor "limited") ⟨"a"⟩ 0 (List.mem_singleton.mpr rfl) rfl rfl)
  have hthird : Runs office settings (opening () default settings) third :=
    .tail (hfirst.tail (.opens first (task 0) 0))
      (.delegates (asksFor "general") ⟨"b"⟩ 0 limited_mem rfl (by decide +kernel))
  exact hthird.tail (.opens third (task 2) 0)

end Chain

end Staff

end AgentSessions
