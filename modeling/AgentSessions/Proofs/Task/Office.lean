import AgentSessions.Proofs.Orchestration.Office
import AgentSessions.Proofs.Task.Admission
import AgentSessions.Proofs.Task.Lifecycle

/-!
# Offices run tasks as sites do

An office keeps its board in a world that it shares with its threads, and notes the bodies that have
yet to be started. Such a world shows as a site (`World.Stages`), and what the office does to it
when somebody creates, starts or cancels tasks, when a body gets its turn and when an engine has
ended is a step or two at the site. So what holds of every site that is reached by steps holds of
the board of an office, whatever its threads are at, and of the events of tasks that it
published.
-/

set_option autoImplicit false

namespace AgentSessions

/-- The task and the state in an event that tells of a change. -/
def Event.taskChange? (e : Event) : Option (String × String) :=
  match e.body with
  | .taskStateChanged task state => some (task, state)
  | _ => none

/-- A change as an event tells of it. -/
def TaskChange.told (c : TaskChange) : String × String :=
  (c.id.text, c.state.name)

variable {η : Type} {w : World η} {bodies : List Body} {s : Site}

namespace World

/-! ## Worlds as sites -/

/-- The bodies that have yet to be started. -/
def openings (w : World η) : List Body :=
  w.starts.filterMap fun start =>
    match start with
    | .drain _ => none
    | .body id => some ⟨id, .opening⟩

/-- The world shows as a site when its threads are at `bodies`. -/
structure Stages (w : World η) (bodies : List Body) (s : Site) : Prop where
  board : s.board = w.board
  settled : s.Settled
  bodies : s.bodies.Perm (bodies ++ w.openings)
  published : w.events.toList.filterMap Event.taskChange? = s.published.map TaskChange.told

theorem stages_new (host : η) (desk : Desk) (maxConcurrent : Nat) (maxDepth : UInt32)
    (agentTypes : List String) :
    (World.new host desk (.empty maxConcurrent maxDepth agentTypes)).Stages []
      (.opening maxConcurrent maxDepth agentTypes) :=
  ⟨rfl, Site.settled_opening _ _ _, .refl _, rfl⟩

theorem openings_putBoard (w : World η) (now : Nat) (b : Board) :
    (w.putBoard now b).openings = w.openings ++ b.admitted.map fun id => ⟨id, .opening⟩ := by
  unfold openings
  show (w.starts ++ b.admitted.map Start.body).filterMap _ = _
  rw [List.filterMap_append, List.filterMap_map]
  congr 1
  show b.admitted.filterMap (fun id => some (⟨id, .opening⟩ : Body)) = _
  rw [List.filterMap_eq_map']

/-- A change is published as one event. -/
theorem taskChanges_map (now : Nat) (changes : List TaskChange) :
    (changes.map (changeEvent now)).filterMap Event.taskChange? = changes.map TaskChange.told := by
  rw [List.filterMap_map]
  show changes.filterMap (fun c => some c.told) = _
  rw [List.filterMap_eq_map']

/-- A step on the board of a world, and the same step at its site. -/
theorem Stages.put (h : w.Stages bodies s) {s' : Site} {next : List Body}
    (hpublished : s'.published = s.published) (hbodies : s'.bodies.Perm (next ++ w.openings))
    (now : Nat) (b : Board) : (w.putBoard now b).Stages next (s'.put b) where
  board := rfl
  settled := Site.settled_put s' b
  bodies := by
    rw [openings_putBoard, ← List.append_assoc]
    exact hbodies.append_right _
  published := by
    show (w.events ++ b.changes.map (changeEvent now)).toList.filterMap _ =
      (s'.published ++ b.changes).map _
    rw [Array.toList_appendList, List.filterMap_append, List.map_append, h.published, hpublished,
      taskChanges_map]

theorem Stages.trip (h : w.Stages bodies s) (token : Token) : (w.trip token).Stages bodies s := by
  unfold World.trip
  split
  · exact h
  · exact ⟨h.board, h.settled, h.bodies, h.published⟩

theorem Stages.tripAll (h : w.Stages bodies s) (tokens : List Token) :
    (w.tripAll tokens).Stages bodies s := by
  unfold World.tripAll
  induction tokens generalizing w with
  | nil => exact h
  | cons token rest ih => exact ih (h.trip token)

/-- A body that a thread is at is at work. -/
theorem Stages.split {body : Body} {before after : List Body}
    (h : w.Stages (before ++ body :: after) s) :
    ∃ before' after', s.bodies = before' ++ body :: after' ∧
      (before' ++ after').Perm (before ++ after ++ w.openings) :=
  Office.perm_split h.bodies

end World

/-! ## Requests -/

namespace Tasks

open Simulation (Proc advance)

theorem advance_onBoard {α : Type} (step : Board → Instant → (α × List Token) × Board) (now : Nat)
    (w : World η) :
    advance now (Act.onBoard step) [] w =
      .finished (step w.board (World.instantAt now)).1.1
        ((w.putBoard now (step w.board (World.instantAt now)).2).tripAll
          (step w.board (World.instantAt now)).1.2) :=
  rfl

/-- Somebody starts a task. -/
theorem stages_start (h : w.Stages bodies s) (id : TaskId) (now : Nat) :
    ∃ s' result w', Site.Step s s' ∧
      advance now (start id) [] w = .finished result w' ∧ w'.Stages bodies s' := by
  refine ⟨_, _, _, .starts s id, advance_onBoard _ now w, ?_⟩
  unfold Site.start
  rw [h.board]
  obtain ⟨result, b⟩ := w.board.start id
  refine (h.put ?_ ?_ now b).tripAll _
  · rfl
  · exact h.bodies

/-- Somebody cancels a task. -/
theorem stages_cancel (h : w.Stages bodies s) (id : TaskId) (now : Nat) :
    ∃ s' result w', Site.Step s s' ∧
      advance now (cancel id) [] w = .finished result w' ∧ w'.Stages bodies s' := by
  refine ⟨_, _, _, .cancels s id (World.instantAt now), advance_onBoard _ now w, ?_⟩
  unfold Site.cancel
  rw [h.board]
  obtain ⟨result, b⟩ := w.board.cancel id (World.instantAt now)
  refine (h.put ?_ ?_ now b).tripAll _
  · rfl
  · exact h.bodies

/-- Somebody shuts the board down. -/
theorem stages_shutdown (h : w.Stages bodies s) (now : Nat) :
    ∃ s' result w', Site.Step s s' ∧
      advance now shutdown [] w = .finished result w' ∧ w'.Stages bodies s' := by
  refine ⟨_, _, _, .shutsDown s (World.instantAt now), advance_onBoard _ now w, ?_⟩
  unfold Site.shutdown
  rw [h.board]
  obtain ⟨result, b⟩ := w.board.shutdown (World.instantAt now)
  refine (h.put ?_ ?_ now b).tripAll _
  · rfl
  · exact h.bodies

/-- Somebody creates a task, whose identifier is new. -/
theorem stages_create (h : w.Stages bodies s) (request : TaskRequest) (now : Nat)
    (hnew : w.board.find? (TaskId.fresh (World.epochMillis + now) w.minted) = none) :
    ∃ s' result w', Site.Step s s' ∧
      advance now (create request) [] w = .finished result w' ∧ w'.Stages bodies s' := by
  rw [← h.board] at hnew
  generalize hfresh : (⟨TaskId.fresh (World.epochMillis + now) w.minted,
    SessionId.fresh (World.epochMillis + now) (w.minted + 1), ⟨w.nextToken⟩⟩ : Board.Fresh) = fresh
  have hid : TaskId.fresh (World.epochMillis + now) w.minted = fresh.task := hfresh ▸ rfl
  -- of the identifiers and the token that are handed out nothing shows at the site
  let minted : World η := { w with minted := w.minted + 2, nextToken := w.nextToken + 1 }
  have hminted : minted.Stages bodies s := ⟨h.board, h.settled, h.bodies, h.published⟩
  have hacts : advance now (create request) [] w =
      advance now (Act.onBoard fun b now => (((b.create request fresh now).1, []),
        (b.create request fresh now).2)) [] minted := by
    rw [← hfresh]
    simp only [create, bind, Proc.bind, Proc.modifyGet, Act.millis, advance, World.mint,
      World.freshToken, minted]
  rw [hid] at hnew
  refine ⟨_, _, _, .creates request fresh (World.instantAt now) hnew,
    hacts.trans (advance_onBoard _ now minted), ?_⟩
  unfold Site.create
  rw [hminted.board]
  generalize minted.board.create request fresh (World.instantAt now) = done
  obtain ⟨result, b⟩ := done
  refine (hminted.put ?_ ?_ now b).tripAll _
  · rfl
  · exact h.bodies

end Tasks

/-! ## Bodies -/

/-- The body that a thread is at. The engine of a task runs until its result is taken down. -/
def Work.body? : Work → Option Body
  | .body id .opening => some ⟨id, .opening⟩
  | .body id _ => some ⟨id, .running⟩
  | _ => none

namespace Office

/-- A step of the body of a task, among others: the board then, and what the body is at. -/
theorem stages_body {body : Body} {before after : List Body}
    (h : w.Stages (before ++ body :: after) s) (next : List Body) (now : Nat) (b : Board) :
    ∃ before' after', s.bodies = before' ++ body :: after' ∧
      (w.putBoard now b).Stages (before ++ next ++ after)
        ({ s with bodies := before' ++ next ++ after' }.put b) := by
  obtain ⟨before', after', hsplit, hothers⟩ := h.split
  refine ⟨before', after', hsplit, h.put ?_ ?_ now b⟩
  · rfl
  · exact perm_insert hothers next

/-- The result of a task is taken down. -/
theorem stages_closeBody {id : TaskId} {stage : Body.Stage} {before after : List Body}
    (h : w.Stages (before ++ ⟨id, stage⟩ :: after) s) (result : Board.Result) (now : Nat) :
    ∃ before' after', s.bodies = before' ++ ⟨id, stage⟩ :: after' ∧
      (closeBody id result now w).Stages (before ++ after)
        (s.closeBody id result (World.instantAt now) (before', after')) := by
  obtain ⟨before', after', hsplit, hstages⟩ := stages_body h [] now
    (w.board.finish id result (World.instantAt now)).vacate
  refine ⟨before', after', hsplit, ?_⟩
  rw [List.append_nil, List.append_nil] at hstages
  unfold Site.closeBody
  rw [h.board]
  exact hstages

/-- The engine of a task is built. -/
theorem stages_builds {id : TaskId} {before after : List Body}
    (h : w.Stages (before ++ ⟨id, .building⟩ :: after) s) :
    ∃ s', Site.Step s s' ∧ w.Stages (before ++ ⟨id, .running⟩ :: after) s' := by
  obtain ⟨before', after', hsplit, hothers⟩ := h.split
  refine ⟨_, .builds hsplit, h.board, ⟨h.settled.changes, h.settled.admitted⟩, ?_, h.published⟩
  have hperm := perm_insert hothers [⟨id, .running⟩]
  simp only [List.append_assoc, List.singleton_append] at hperm ⊢
  exact hperm

/-- The body of a task gets its turn. Unless the task was cancelled meanwhile, it begins, and its
engine is built or cannot be built. -/
theorem stages_openBody (o : Office η) {id : TaskId} {before after : List Body}
    (h : w.Stages (before ++ ⟨id, .opening⟩ :: after) s) (now : Nat) :
    ∃ s', Site.Runs s s' ∧ (o.openBody id now w).1.Stages
      (before ++ ((o.openBody id now w).2.bind fun work => work.1.body?).toList ++ after) s' := by
  cases hbegin : w.board.begin id (World.instantAt now) with
  | mk begun b =>
  have hsite : s.board.begin id (World.instantAt now) = (begun, b) := by
    rw [h.board, hbegin]
  -- a task that was cancelled meanwhile does not begin, and its slot is vacated
  cases begun with
  | none =>
      obtain ⟨before', after', hsplit, hstages⟩ := stages_body h [] now b.vacate
      refine ⟨_, .single (.opens (World.instantAt now) hsplit), ?_⟩
      unfold openBody Site.openBody
      rw [hsite, hbegin]
      simpa using hstages
  | some task =>
      obtain ⟨before', after', hsplit, hstages⟩ := stages_body h [⟨id, .building⟩] now b
      have hopened := Relation.ReflTransGen.single
        (Site.Step.opens (World.instantAt now) hsplit)
      unfold Site.openBody at hopened
      rw [hsite] at hopened
      rw [List.append_assoc, List.append_assoc] at hstages
      unfold openBody
      rw [hbegin]
      dsimp only
      cases o.build task.agentType task.depth with
      | error e =>
          obtain ⟨before'', after'', hsplit', hclosed⟩ :=
            stages_closeBody hstages (.failed e.message) now
          refine ⟨_, hopened.tail (.fails e.message (World.instantAt now) hsplit'), ?_⟩
          simpa using hclosed
      | ok agent =>
          obtain ⟨s', hbuilds, hbuilt⟩ := stages_builds hstages
          refine ⟨s', hopened.tail hbuilds, ?_⟩
          simpa [Work.body?] using hbuilt

/-- What a thread does next when what the body of a task waited for has come. -/
theorem stages_resume (o : Office η) {id : TaskId} {stage : BodyStage} {body : Body}
    {before after : List Body} (hbody : (Work.body id stage).body? = some body)
    (h : w.Stages (before ++ body :: after) s) {ending : Simulation.Ending Answer}
    (hending : stage = .opening → ∃ answer, ending = .returned answer) (now : Nat) :
    ∃ s', Site.Runs s s' ∧ (o.resume now (.body id stage) ending w).1.Stages
      (before ++ ((o.resume now (.body id stage) ending w).2.bind
        fun work => work.1.body?).toList ++ after) s' := by
  cases stage with
  | opening =>
      obtain ⟨answer, rfl⟩ := hending rfl
      cases hbody
      exact stages_openBody o h now
  | closing result =>
      cases hbody
      obtain ⟨before', after', hsplit, hclosed⟩ := stages_closeBody h result now
      refine ⟨_, .single (.ends result (World.instantAt now) hsplit), ?_⟩
      cases ending <;> simpa [resume] using hclosed
  | running =>
      cases hbody
      -- an engine that gives no result ends in a panic, which is taken down at the next turn
      have hgoesOn : w.Stages (before ++ (some (⟨id, .running⟩ : Body)).toList ++ after) s := by
        simpa using h
      cases ending with
      | panicked | dropped => exact ⟨s, .refl, hgoesOn⟩
      | returned answer =>
          cases answer with
          | ran result =>
              obtain ⟨before', after', hsplit, hclosed⟩ := stages_closeBody h (resultOf result) now
              refine ⟨_, .single (.ends (resultOf result) (World.instantAt now) hsplit), ?_⟩
              simpa [resume] using hclosed
          | ready | loaded | wiped => exact ⟨s, .refl, hgoesOn⟩

/-- The bodies that were noted are started as threads. -/
theorem stages_started (h : w.Stages bodies s) :
    (started w).2.Stages (bodies ++ w.openings) s where
  board := h.board
  settled := h.settled
  bodies := by
    show s.bodies.Perm (bodies ++ w.openings ++ [])
    rw [List.append_nil]
    exact h.bodies
  published := h.published

/-! ## What holds in offices -/

/-- The events of a task tell of the states that were published at the site. -/
theorem events_of_stages (h : w.Stages bodies s) (id : TaskId) :
    ((w.events.toList.filterMap Event.taskChange?).filter fun told => told.1 = id.text).map
      Prod.snd = (s.statesOf id).map TaskState.name := by
  have hsame : ((fun told : String × String => decide (told.1 = id.text)) ∘ TaskChange.told) =
      fun c => decide (c.id = id) := by
    funext c
    have hid : c.id.text = id.text ↔ c.id = id := by
      rw [TaskId.mk.injEq]
    exact decide_eq_decide.mpr hid
  unfold Site.statesOf
  rw [h.published, List.filter_map, hsame, List.map_map, List.map_map]
  rfl

/-- The record of a task fits the events that tell of it. -/
theorem past_of_stages (h : w.Stages bodies s) {maxConcurrent : Nat} {maxDepth : UInt32}
    {agentTypes : List String} (hruns : Site.Runs (.opening maxConcurrent maxDepth agentTypes) s)
    {id : TaskId} {t : Task} (ht : w.board.get? id = some t) :
    ∃ states, t.Past states ∧
      ((w.events.toList.filterMap Event.taskChange?).filter fun told => told.1 = id.text).map
        Prod.snd = states.map TaskState.name := by
  rw [← h.board] at ht
  exact ⟨s.statesOf id, (Site.Runs.onCourse hruns).recorded.known ht, events_of_stages h id⟩

/-- Every slot of an office is free, or a thread is at the body that holds it or yet to be
started. -/
theorem slots_of_stages (h : w.Stages bodies s) {maxConcurrent : Nat} {maxDepth : UInt32}
    {agentTypes : List String}
    (hruns : Site.Runs (.opening maxConcurrent maxDepth agentTypes) s) :
    w.board.free + (bodies.length + w.openings.length) = max 1 maxConcurrent := by
  have hslots := Site.Runs.slots hruns
  rw [h.board, h.bodies.length_eq, List.length_append] at hslots
  exact hslots

end Office

end AgentSessions
