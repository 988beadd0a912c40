import AgentSessions.Proofs.Simulation.Looking
import AgentSessions.Proofs.Task.Mandates
import AgentSessions.Task.Tool

/-!
# Calls of the task tool

What a call of the task tool does to the board (`TaskTool.execute_cases`). Most actions only look at
the board. The others act on it at once: those that start and cancel tasks keep every mandate, and
the one that creates a task is refused and changes nothing, or it adds one mandate, which is one
level deeper than the engine that calls. A call that fails changes no task at all.
-/

set_option autoImplicit false

namespace AgentSessions

open Simulation (Proc)

variable {η α β : Type}

/-! ## Requests at the board -/

namespace World

@[simp] theorem board_trip (w : World η) (token : Token) : (w.trip token).board = w.board := by
  unfold trip
  split <;> rfl

@[simp] theorem board_tripAll (w : World η) (tokens : List Token) :
    (w.tripAll tokens).board = w.board := by
  induction tokens generalizing w with
  | nil => rfl
  | cons token rest ih => exact (ih (w.trip token)).trans (w.board_trip token)

@[simp] theorem board_putBoard (w : World η) (now : Nat) (b : Board) :
    (w.putBoard now b).board = { b with changes := [], admitted := [] } :=
  rfl

/-- The identifiers and the token that a new task gets. -/
def nextFresh (w : World η) (now : Nat) : Board.Fresh :=
  ⟨TaskId.fresh (epochMillis + now) w.minted, SessionId.fresh (epochMillis + now) (w.minted + 1),
    ⟨w.nextToken⟩⟩

/-- The world when they are handed out. -/
def handedOut (w : World η) : World η :=
  { w with minted := w.minted + 2, nextToken := w.nextToken + 1 }

end World

namespace Board

/-- Nothing of what is settled shows in the changes and the admissions that are noted. -/
theorem keeps_taken (b : Board) : b.Keeps { b with changes := [], admitted := [] } :=
  keeps_of_entries rfl rfl rfl

theorem Adds.trans {b b' b'' : Board} {id : TaskId} {m : Mandate} (h : b.Adds id m b')
    (h' : b'.Keeps b'') : b.Adds id m b'' :=
  ⟨h'.maxDepth.trans h.maxDepth, h'.agentTypes.trans h.agentTypes,
    fun id' => (h'.mandate? id').trans (h.mandate? id')⟩

end Board

namespace Tasks

theorem acts_onBoard (step : Board → Instant → (α × List Token) × Board) (now : Nat)
    (w : World η) :
    (Act.onBoard step).Acts now w (step w.board (World.instantAt now)).1.1
      ((w.putBoard now (step w.board (World.instantAt now)).2).tripAll
        (step w.board (World.instantAt now)).1.2) :=
  fun _ _ => rfl

theorem acts_create (r : TaskRequest) (now : Nat) (w : World η) :
    (create r).Acts now w (w.board.create r (w.nextFresh now) (World.instantAt now)).1
      (w.handedOut.putBoard now
        (w.board.create r (w.nextFresh now) (World.instantAt now)).2) := by
  intro β f frames
  simp only [create, bind, Proc.bind, Proc.modifyGet, Act.millis, Simulation.advance, World.mint,
    Act.onBoard, World.freshToken, World.nextFresh, World.handedOut]
  rfl

/-- A task is created, or the request is refused and no task changes. -/
theorem create_cases (r : TaskRequest) {now : Nat} {w : World η}
    (hnew : w.board.find? (w.nextFresh now).task = none) :
    ∃ result w', (create r).Acts now w result w' ∧
      ((∃ e, w.board.refusal? r = some e ∧ result = .error e ∧ w.board.Keeps w'.board ∧
          w'.board.entries = w.board.entries) ∨
        w.board.refusal? r = none ∧ (∃ t, result = .ok t) ∧
          w.board.Adds (w.nextFresh now).task (r.mandate (w.nextFresh now)) w'.board) := by
  refine ⟨_, _, acts_create r now w, ?_⟩
  rw [World.board_putBoard]
  rcases Board.create_cases r hnew (World.instantAt now) with
    ⟨e, hrefusal, hcreate⟩ | ⟨hrefusal, ⟨t, ht, -⟩, hadds⟩
  · rw [hcreate]
    exact .inl ⟨e, hrefusal, rfl, w.board.keeps_taken, rfl⟩
  · exact .inr ⟨hrefusal, ⟨t, ht⟩, hadds.trans (Board.keeps_taken _)⟩

/-- A task is started, or the wish is refused and no task changes. -/
theorem start_cases (id : TaskId) (now : Nat) (w : World η) :
    ∃ result w', (start id).Acts now w result w' ∧ w.board.Keeps w'.board ∧
      ((∃ e, result = .error e) → w'.board.entries = w.board.entries) := by
  refine ⟨_, _, acts_onBoard _ now w, ?_⟩
  rw [World.board_tripAll, World.board_putBoard]
  refine ⟨(w.board.keeps_start id).trans (Board.keeps_taken _), fun ⟨e, he⟩ => ?_⟩
  have hstarts := w.board.starts_start id
  dsimp only at he ⊢
  generalize w.board.start id = done at hstarts he
  cases hstarts with
  | refused error => rfl
  | done hfind hsubmitted => cases he

theorem cancel_cases (id : TaskId) (now : Nat) (w : World η) :
    ∃ cancelled w', (cancel id).Acts now w cancelled w' ∧ w.board.Keeps w'.board := by
  refine ⟨_, _, acts_onBoard _ now w, ?_⟩
  rw [World.board_tripAll, World.board_putBoard]
  exact (w.board.keeps_cancel id _).trans (Board.keeps_taken _)

theorem shutdown_cases (now : Nat) (w : World η) :
    ∃ count w', shutdown.Acts now w count w' ∧ w.board.Keeps w'.board := by
  refine ⟨_, _, acts_onBoard _ now w, ?_⟩
  rw [World.board_tripAll, World.board_putBoard]
  exact (w.board.keeps_shutdown _).trans (Board.keeps_taken _)

/-! ## Looking and waiting -/

theorem looks_look (view : Board → α) : (look view : Act η α).Looks :=
  fun _ => trivial

theorem looks_await (timeout : UInt64) (ready : Board → Bool)
    (view : Board → Except TaskError α) : (await timeout ready view : Act η _).Looks := by
  refine (Proc.looks_orTimeout (p := Proc.waitFor _) trivial _).bind fun waited => ?_
  cases waited with
  | none => trivial
  | some done => exact looks_look view

theorem looks_wait (id : TaskId) (timeout : UInt64) : (wait id timeout : Act η _).Looks := by
  unfold wait
  refine (looks_look _).bind fun refusal => ?_
  cases refusal with
  | none => exact looks_await _ _ _
  | some e => trivial

theorem looks_waitAll (ids : List TaskId) (timeout : UInt64) :
    (waitAll ids timeout : Act η _).Looks := by
  unfold waitAll
  refine (looks_look _).bind fun refusal => ?_
  cases refusal with
  | none => exact looks_await _ _ _
  | some e => trivial

theorem looks_waitAny (ids : List TaskId) (timeout : UInt64) :
    (waitAny ids timeout : Act η _).Looks := by
  unfold waitAny
  split
  · trivial
  · refine (looks_look _).bind fun refusal => ?_
    cases refusal with
    | none => exact looks_await _ _ _
    | some e => trivial

end Tasks

/-! ## The tool -/

namespace TaskTool

open Json (Object Value)

/-- An engine asks for a task: what it is to be, one level deeper than the engine. -/
structure AsksFor (context : ToolContext) (r : TaskRequest) : Prop where
  parent : r.parentSession = some context.sessionId
  depth : r.depth = context.depth + 1

theorem bind_eq_ok {x : Except ToolError α} {f : α → Except ToolError β} {b : β}
    (h : (x >>= f) = .ok b) : ∃ a, x = .ok a ∧ f a = .ok b := by
  cases x with
  | error e => cases h
  | ok a => exact ⟨a, rfl, h⟩

theorem map_eq_ok {x : Except ToolError α} {f : α → β} {b : β} (h : f <$> x = .ok b) :
    ∃ a, x = .ok a ∧ f a = b := by
  cases x with
  | error e => cases h
  | ok a => exact ⟨a, rfl, Except.ok.inj h⟩

/-- An action and the name by which it is asked for, with what its arguments say. -/
inductive Reads (arguments : Object) (context : ToolContext) : String → Action → Prop where
  | create {r : TaskRequest} : AsksFor context r → r.autoStart = autoStart arguments →
      Reads arguments context "create" (.create r)
  | start {id : TaskId} : arguments.get? "taskId" = some (.string id.text) →
      Reads arguments context "start" (.start id)
  | status (id : TaskId) : Reads arguments context "status" (.status id)
  | wait (id : TaskId) (timeout : UInt64) : Reads arguments context "wait" (.wait id timeout)
  | waitAll (ids : List TaskId) (timeout : UInt64) :
      Reads arguments context "wait_all" (.waitAll ids timeout)
  | waitAny (ids : List TaskId) (timeout : UInt64) :
      Reads arguments context "wait_any" (.waitAny ids timeout)
  | cancel {id : TaskId} : arguments.get? "taskId" = some (.string id.text) →
      Reads arguments context "cancel" (.cancel id)
  | list {state : Option TaskState} : state? arguments = .ok state →
      Reads arguments context "list" (.list ⟨state, some context.sessionId⟩)

theorem get?_of_text? {arguments : Object} {key s : String} (h : text? arguments key = some s) :
    arguments.get? key = some (.string s) := by
  unfold text? at h
  split at h
  · rename_i hget
    cases h
    exact hget
  · cases h

theorem get?_of_required {arguments : Object} {key s : String}
    (h : required arguments key = .ok s) : arguments.get? key = some (.string s) := by
  unfold required at h
  split at h
  · rename_i htext
    split at h
    · cases h
    · cases h
      exact get?_of_text? htext
  · cases h

theorem get?_of_taskId {arguments : Object} {id : TaskId} (h : taskId arguments = .ok id) :
    arguments.get? "taskId" = some (.string id.text) := by
  obtain ⟨text, htext, rfl⟩ := map_eq_ok h
  exact get?_of_required htext

theorem reads_of_ofName {settings : TaskSettings} {arguments : Object} {context : ToolContext}
    {asked : String} {action : Action}
    (h : Action.ofName settings arguments context asked = .ok action) :
    Reads arguments context asked action := by
  unfold Action.ofName at h
  split at h
  · obtain ⟨description, -, h⟩ := bind_eq_ok h
    obtain ⟨p, -, h⟩ := bind_eq_ok h
    cases h
    exact .create ⟨rfl, rfl⟩ rfl
  · obtain ⟨id, hid, rfl⟩ := map_eq_ok h
    exact .start (get?_of_taskId hid)
  · obtain ⟨id, -, rfl⟩ := map_eq_ok h
    exact .status id
  · obtain ⟨id, -, h⟩ := bind_eq_ok h
    cases h
    exact .wait id _
  · obtain ⟨ids, -, h⟩ := bind_eq_ok h
    cases h
    exact .waitAll ids _
  · obtain ⟨ids, -, h⟩ := bind_eq_ok h
    cases h
    exact .waitAny ids _
  · obtain ⟨id, hid, rfl⟩ := map_eq_ok h
    exact .cancel (get?_of_taskId hid)
  · obtain ⟨state, hstate, h⟩ := bind_eq_ok h
    cases h
    exact .list hstate
  · cases h

/-- Whatever is read from the arguments is named there. -/
theorem reads_of_read {settings : TaskSettings} {arguments : Object} {context : ToolContext}
    {action : Action} (h : Action.read settings arguments context = .ok action) :
    ∃ asked, arguments.get? "action" = some (.string asked) ∧
      Reads arguments context asked action := by
  obtain ⟨asked, hasked, h⟩ := bind_eq_ok h
  exact ⟨asked, get?_of_required hasked, reads_of_ofName h⟩

/-- Only the action that creates a task asks for one. -/
theorem asksFor_of_read {settings : TaskSettings} {arguments : Object} {context : ToolContext}
    {r : TaskRequest} (h : Action.read settings arguments context = .ok (.create r)) :
    AsksFor context r := by
  obtain ⟨asked, -, hreads⟩ := reads_of_read h
  cases hreads with
  | create hasks => exact hasks

theorem success_settle {encode : α → Value} {result : Except TaskError α} :
    (ToolRegistry.settle (settle encode result)).success = true ↔ ∃ a, result = .ok a := by
  cases result with
  | ok a => exact ⟨fun _ => ⟨a, rfl⟩, fun _ => rfl⟩
  | error e => exact iff_of_false (fun h => nomatch h) fun ⟨_, h⟩ => nomatch h

/-- What a call does at once: every mandate stays, and every task if the call fails; or the call
succeeds and adds a task that the engine asked for. -/
inductive Does (context : ToolContext) (now : Nat) (w : World η)
    (result : Except ToolError ToolOutcome) (w' : World η) : Prop where
  | keeps : w.board.Keeps w'.board →
      ((ToolRegistry.settle result).success = false → w'.board.entries = w.board.entries) →
      Does context now w result w'
  | adds (r : TaskRequest) : AsksFor context r → w.board.refusal? r = none →
      (ToolRegistry.settle result).success = true →
      w.board.Adds (w.nextFresh now).task (r.mandate (w.nextFresh now)) w'.board →
      Does context now w result w'

theorem looks_untilCancelled (token : Token) (encode : α → Value)
    {p : Act η (Except TaskError α)} (hp : p.Looks) : (untilCancelled token encode p).Looks := by
  refine (Proc.looks_orTripped hp _).bind fun result => ?_
  cases result with
  | none => trivial
  | some result => trivial

theorem looks_status (token : Token) (id : TaskId) :
    (perform token (.status id) : Act η _).Looks := by
  unfold perform
  refine (Tasks.looks_look _).bind fun found => ?_
  cases found with
  | none => trivial
  | some t => trivial

theorem perform_cases {context : ToolContext} {action : Action}
    (hasks : ∀ r, action = .create r → AsksFor context r) {now : Nat} {w : World η}
    (hnew : w.board.find? (w.nextFresh now).task = none) :
    (perform context.token action : Act η _).Looks ∨
      ∃ result w', (perform context.token action).Acts now w result w' ∧
        Does context now w result w' := by
  -- three actions are done in one go, the others are done with looking
  cases action with
  | create r =>
      right
      obtain ⟨result, w', hacts, hdoes⟩ := Tasks.create_cases r hnew
      refine ⟨_, w', hacts.map _, ?_⟩
      rcases hdoes with ⟨e, -, -, hkeeps, hentries⟩ | ⟨hrefusal, hok, hadds⟩
      · exact .keeps hkeeps fun _ => hentries
      · exact .adds r (hasks r rfl) hrefusal (success_settle.mpr hok) hadds
  | start id =>
      right
      obtain ⟨result, w', hacts, hkeeps, hfails⟩ := Tasks.start_cases id now w
      refine ⟨_, w', hacts.map _, .keeps hkeeps fun hfailed => hfails ?_⟩
      cases result with
      | ok t => cases hfailed
      | error e => exact ⟨e, rfl⟩
  | cancel id =>
      right
      obtain ⟨cancelled, w', hacts, hkeeps⟩ := Tasks.cancel_cases id now w
      exact ⟨_, w', hacts.map _, .keeps hkeeps fun hfailed => nomatch hfailed⟩
  | status id => exact .inl (looks_status _ id)
  | wait id timeout => exact .inl (looks_untilCancelled _ _ (Tasks.looks_wait id timeout))
  | waitAll ids timeout => exact .inl (looks_untilCancelled _ _ (Tasks.looks_waitAll ids timeout))
  | waitAny ids timeout => exact .inl (looks_untilCancelled _ _ (Tasks.looks_waitAny ids timeout))
  | list filter =>
      left
      unfold perform
      exact (Tasks.looks_look _).bind fun found => trivial

/-- What the tool does when there is a scheduler. -/
def respond (context : ToolContext) : Except ToolError Action →
    Act η (Except ToolError ToolOutcome)
  | .error e => .done (.error e)
  | .ok action => perform context.token action

/-- Why the tool does nothing when there is no scheduler. -/
def shutDown : ToolError :=
  .execution name "task scheduler has shut down"

theorem execute_eq (settings : TaskSettings) (arguments : Object) (context : ToolContext) :
    (execute settings arguments context : Act η _) = .observe fun w =>
      if w.hasScheduler then respond context (Action.read settings arguments context)
      else .done (.error shutDown) := by
  unfold execute
  refine congrArg Proc.observe (funext fun w => ?_)
  cases hscheduler : w.hasScheduler <;> cases Action.read settings arguments context <;>
    simp [Proc.bind, hscheduler, respond, shutDown, pure]

/-- A call of the tool only looks at the world, or it does at once what it does. -/
theorem execute_cases (settings : TaskSettings) (arguments : Object) (context : ToolContext)
    {now : Nat} {w : World η} (hnew : w.board.find? (w.nextFresh now).task = none) :
    (execute settings arguments context : Act η _).Looks ∨
      ∃ result w', (execute settings arguments context).Acts now w result w' ∧
        Does context now w result w' := by
  have hresponds : (respond context (Action.read settings arguments context) : Act η _).Looks ∨
      ∃ result w', (respond context (Action.read settings arguments context)).Acts now w result w' ∧
        Does context now w result w' := by
    cases hread : Action.read settings arguments context with
    | error e => exact .inl trivial
    | ok action => exact perform_cases (fun r hr => asksFor_of_read (hr ▸ hread)) hnew
  rw [execute_eq]
  rcases hresponds with hlooks | ⟨result, w', hacts, hdoes⟩
  · left
    intro s
    dsimp only
    split
    · exact hlooks
    · trivial
  · right
    cases hscheduler : w.hasScheduler with
    | false =>
        refine ⟨.error shutDown, w, fun f frames => ?_, .keeps (.refl _) fun _ => rfl⟩
        simp [Proc.bind, Simulation.advance, hscheduler]
    | true =>
        refine ⟨result, w', fun f frames => ?_, hdoes⟩
        rw [← hacts f frames]
        simp [Proc.bind, Simulation.advance, hscheduler]

end TaskTool

end AgentSessions
