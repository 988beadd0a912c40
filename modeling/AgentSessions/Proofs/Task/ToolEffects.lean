import AgentSessions.Proofs.Task.Requests
import AgentSessions.Proofs.Task.Waiting

/-!
# What calls of the task tool change

The arguments of a call come from a model, and any value can stand under any key. Whatever they are,
a call that fails leaves nothing behind, and one that succeeds has changed what the action it names
is for and nothing else: one new task, one submission, one cancellation, or nothing at all
(`TaskTool.Fulfils`). Whoever waits may be woken at any time and by anything, so what a call has
come to is told of all the moments that it can be at (`Simulation.Comes`).
-/

set_option autoImplicit false

namespace AgentSessions.TaskTool

open Json (Object Value)
open Simulation (Comes Juncture Proc Progress)
open World (Passes Reached Rests Turns)

variable {η : Type} {arguments : Object} {context : ToolContext}

/-! ## What a call is to do -/

/-- A new task, one level deeper than the engine that called and delegated by its session. -/
structure New (context : ToolContext) (b : Board) (e : TaskEntry) : Prop where
  unknown : b.find? e.id = none
  state : e.state = .pending
  parent : e.task.parentSessionId = some context.sessionId
  depth : e.task.depth = context.depth + 1

/-- The board with another entry. -/
def withEntry (b : Board) (e : TaskEntry) : Board :=
  { b with entries := b.entries ++ [e] }

/-- The event that tells that a task passed to a state. -/
def eventOf (now : Nat) (t : Task) (state : TaskState) : Event :=
  World.changeEvent now ⟨t.parentSessionId, t.id, state⟩

/-- Whether a task belongs to the calling session and is in the state that is asked for. -/
def isListed (arguments : Object) (context : ToolContext) (t : Task) : Bool :=
  t.parentSessionId == some context.sessionId &&
    (text? arguments "state").all fun state => state == t.state.name

/-- The answer to a cancellation. -/
def cancelAnswer (id : TaskId) (cancelled : Bool) : ToolOutcome :=
  .ok (Value.object [("cancelled", .bool cancelled), ("taskId", id.encode)]).pretty

/-- What a call that succeeds has done to the world, by the name of the action. -/
inductive Fulfils (arguments : Object) (context : ToolContext) (now : Nat) (w : World η) :
    String → ToolOutcome → World η → Prop where
  | creates {e : TaskEntry} {w' : World η} : New context w.board e →
      arguments.get? "autoStart" = some (.bool false) → e.submitted = false →
      w.Turns (withEntry w.board e) [eventOf now e.task .pending] [] [] w' →
      Fulfils arguments context now w "create" (.ok e.task.encode.pretty) w'
  | createsAndStarts {e : TaskEntry} {b : Board} {admitted : List TaskId} {w' : World η} :
      New context w.board e → arguments.get? "autoStart" ≠ some (.bool false) →
      e.submitted = true → (withEntry w.board e).Queues e.id b admitted →
      w.Turns b [eventOf now e.task .pending] admitted [] w' →
      Fulfils arguments context now w "create" (.ok e.task.encode.pretty) w'
  | starts {e : TaskEntry} {b : Board} {admitted : List TaskId} {w' : World η} :
      arguments.get? "taskId" = some (.string e.id.text) → w.board.find? e.id = some e →
      e.state = .pending → e.submitted = false →
      (w.board.replace { e with submitted := true }).Queues e.id b admitted →
      w.Turns b [] admitted [] w' →
      Fulfils arguments context now w "start" (.ok e.task.encode.pretty) w'
  | cancels {e : TaskEntry} {w' : World η} :
      arguments.get? "taskId" = some (.string e.id.text) → w.board.find? e.id = some e →
      e.state.isTerminal = false →
      w.Turns
        (w.board.replace { e with task := Board.cancelledTask e.task (World.instantAt now) })
        [eventOf now e.task .cancelled] [] [e.token] w' →
      Fulfils arguments context now w "cancel" (cancelAnswer e.id true) w'
  | spares {id : TaskId} {w' : World η} : arguments.get? "taskId" = some (.string id.text) →
      (∀ e, w.board.find? id = some e → e.state.isTerminal = true) → w.Rests w' →
      Fulfils arguments context now w "cancel" (cancelAnswer id false) w'
  | looks {asked : String} (outcome : ToolOutcome) :
      asked ∈ ["status", "wait", "wait_all", "wait_any"] →
      Fulfils arguments context now w asked outcome w
  | lists {ts : List Task} :
      ts.Perm ((w.board.entries.map TaskEntry.task).filter (isListed arguments context)) →
      ts.Pairwise (fun t t' => t.createdAt.notAfter t'.createdAt = true) →
      Fulfils arguments context now w "list" (.ok (encodeAll ts).pretty) w

/-- How a call has ended: whoever fails has shown nothing. -/
inductive Ends (arguments : Object) (context : ToolContext) (now : Nat) (w : World η) :
    Except ToolError ToolOutcome → World η → Prop where
  | fails {w' : World η} (e : ToolError) : w.Rests w' →
      Ends arguments context now w (.error e) w'
  | succeeds {asked : String} {outcome : ToolOutcome} {w' : World η} :
      arguments.get? "action" = some (.string asked) →
      Fulfils arguments context now w asked outcome w' →
      Ends arguments context now w (.ok outcome) w'

/-- What a call has come to, and what it has done to the world as the others left it. -/
inductive Answers (arguments : Object) (context : ToolContext) (m : Juncture (World η)) :
    Progress (World η) (Except ToolError ToolOutcome) → Prop where
  /-- There is no answer, and nothing was done. -/
  | waits {progress : Progress (World η) (Except ToolError ToolOutcome)} :
      (∀ result w, progress ≠ .finished result w) → progress.state = m.state →
      Answers arguments context m progress
  | ends {result : Except ToolError ToolOutcome} {w : World η} :
      Ends arguments context m.now m.state result w →
      Answers arguments context m (.finished result w)

/-! ## Listing -/

theorem name_of_read {s : String} {state : TaskState}
    (h : TaskState.decoder.value? (.string s) = .ok state) : s = state.name := by
  unfold Json.Decoder.value? TaskState.decoder at h
  have hvariant : Json.Decoder.oneOf TaskState.names none (Json.Node.ofValue (.string s)) =
      Json.Decoder.variant TaskState.names s := rfl
  rw [hvariant, Json.Decoder.variant] at h
  cases hget : Entries.get? s TaskState.names with
  | none =>
      rw [hget] at h
      cases h
  | some a =>
      rw [hget] at h
      cases h
      obtain ⟨state', -, hpair⟩ := List.mem_map.mp (Entries.mem_of_get? hget)
      cases hpair
      rfl

/-- What is read from the arguments of a list accepts what is asked for. -/
theorem accepts_of_state? {state : Option TaskState} (h : state? arguments = .ok state) :
    (⟨state, some context.sessionId⟩ : TaskFilter).accepts = isListed arguments context := by
  funext t
  unfold state? at h
  unfold TaskFilter.accepts isListed
  rw [Bool.and_comm]
  refine congrArg₂ _ rfl ?_
  cases htext : text? arguments "state" with
  | none =>
      rw [htext] at h
      cases h
      rfl
  | some s =>
      rw [htext] at h
      dsimp only at h
      split at h
      · rename_i state' hread
        cases h
        rw [name_of_read hread, Option.all_some, Option.all_some]
        cases state' <;> cases t.state <;> rfl
      · cases h

theorem fulfils_list {now : Nat} {w : World η} {state : Option TaskState}
    (h : state? arguments = .ok state) :
    Fulfils arguments context now w "list"
      (.ok (encodeAll (w.board.list ⟨state, some context.sessionId⟩)).pretty) w := by
  refine .lists ?_ (w.board.pairwise_list _)
  rw [← accepts_of_state? h]
  exact w.board.perm_list _

/-! ## Creating -/

theorem autoStart_eq_false_iff :
    autoStart arguments = false ↔ arguments.get? "autoStart" = some (.bool false) := by
  unfold autoStart
  split
  · rename_i started hget
    rw [hget]
    simp
  · rename_i hother
    refine iff_of_false (by simp) fun hget => ?_
    exact hother false hget

theorem new_of_asksFor {b : Board} {r : TaskRequest} {fresh : Board.Fresh}
    (hasks : AsksFor context r) (hnew : b.find? fresh.task = none) (now : Instant)
    (submitted : Bool) :
    New context b { Board.newEntry r fresh now with submitted := submitted } :=
  ⟨hnew, rfl, hasks.parent, hasks.depth⟩

section Acting

variable {now : Nat} {w : World η}

theorem taken_add (hreached : w.Reached) (e : TaskEntry) :
    (w.board.add e).taken = withEntry w.board e := by
  show withEntry w.board.taken e = _
  rw [hreached.taken_board]

theorem events_add (hreached : w.Reached) (e : TaskEntry) :
    (w.board.add e).changes.map (World.changeEvent now) = [eventOf now e.task e.state] := by
  show (w.board.changes ++ [_]).map _ = _
  rw [hreached.changes]
  rfl

/-- A request that is not refused is fulfilled. -/
theorem fulfils_create {r : TaskRequest} {fresh : Board.Fresh} {instant : Instant} {w' : World η}
    (hreached : w.Reached) (hnew : w.board.find? fresh.task = none)
    (hrefusal : w.board.refusal? r = none) (hasks : AsksFor context r)
    (hauto : r.autoStart = autoStart arguments)
    (hturns : w.Turns (w.board.create r fresh instant).2.taken
      ((w.board.create r fresh instant).2.changes.map (World.changeEvent now))
      (w.board.create r fresh instant).2.admitted [] w') :
    (w.board.create r fresh instant).1 = .ok (Board.newTask r fresh instant) ∧
      Fulfils arguments context now w "create"
        (.ok (Board.newTask r fresh instant).encode.pretty) w' := by
  -- a task that starts at once may let others in before it, one that waits lets nobody in
  cases hstart : r.autoStart with
  | false =>
      have hunstarted := autoStart_eq_false_iff.mp (hauto.symm.trans hstart)
      rw [Board.create_unstarted hrefusal hstart] at hturns ⊢
      have hadmitted : (w.board.add (Board.newEntry r fresh instant)).admitted = [] :=
        hreached.admitted
      rw [taken_add hreached, events_add hreached, hadmitted] at hturns
      have hnewEntry := new_of_asksFor hasks hnew instant false
      exact ⟨rfl, .creates (e := Board.newEntry r fresh instant) hnewEntry hunstarted rfl hturns⟩
  | true =>
      have hstarted : arguments.get? "autoStart" ≠ some (.bool false) := by
        rw [Ne, ← autoStart_eq_false_iff, ← hauto, hstart]
        exact Bool.noConfusion
      obtain ⟨b, admitted, hqueues, hcreate⟩ :=
        Board.create_started hrefusal hstart hnew hreached.greedy instant
      have hbehind := hqueues.taken
      rw [taken_add hreached] at hbehind
      rw [hcreate] at hturns ⊢
      dsimp only at hturns
      rw [hqueues.changes, events_add hreached, hreached.admitted] at hturns
      have hnewEntry := new_of_asksFor hasks hnew instant true
      exact ⟨rfl, .createsAndStarts (e := { Board.newEntry r fresh instant with submitted := true })
        hnewEntry hstarted rfl hbehind hturns⟩

theorem ends_create {r : TaskRequest} (hreached : w.Reached)
    (hnew : w.board.find? (w.nextFresh now).task = none)
    (hasked : arguments.get? "action" = some (.string "create")) (hasks : AsksFor context r)
    (hauto : r.autoStart = autoStart arguments) :
    ∃ result w', (perform context.token (.create r)).Acts now w result w' ∧
      Ends arguments context now w result w' := by
  refine ⟨_, _, Proc.Acts.map (Tasks.acts_create r now w) _, ?_⟩
  have hturns := World.turns_of_handedOut (w.handedOut.turns_putBoard now
    (w.board.create r (w.nextFresh now) (World.instantAt now)).2)
  cases hrefusal : w.board.refusal? r with
  | some e =>
      have hcreate : w.board.create r (w.nextFresh now) (World.instantAt now) =
          (.error e, w.board) := by
        unfold Board.create
        rw [hrefusal]
      rw [hcreate] at hturns ⊢
      exact .fails _ (hreached.rests hturns)
  | none =>
      obtain ⟨hok, hfulfils⟩ := fulfils_create hreached hnew hrefusal hasks hauto hturns
      rw [hok]
      exact .succeeds hasked hfulfils

/-! ## Starting and cancelling -/

theorem fulfils_start {e : TaskEntry} {w' : World η} (hreached : w.Reached)
    (hid : arguments.get? "taskId" = some (.string e.id.text))
    (he : w.board.find? e.id = some e) (hunsubmitted : e.submitted = false)
    (hopen : e.state ≠ .cancelled)
    (hturns : w.Turns (w.board.start e.id).2.taken
      ((w.board.start e.id).2.changes.map (World.changeEvent now))
      (w.board.start e.id).2.admitted [] w') :
    (w.board.start e.id).1 = .ok e.task ∧
      Fulfils arguments context now w "start" (.ok e.task.encode.pretty) w' := by
  have hpending := hreached.pending_of_unsubmitted he hunsubmitted hopen
  obtain ⟨b, admitted, hqueues, hstart⟩ :=
    Board.start_pending hreached.greedy he hunsubmitted hpending
  have hbehind := hqueues.taken
  have htaken : (w.board.replace { e with submitted := true }).taken =
      w.board.replace { e with submitted := true } := by
    show w.board.taken.replace _ = _
    rw [hreached.taken_board]
  have hchanges : (w.board.replace { e with submitted := true }).changes = [] := hreached.changes
  rw [htaken] at hbehind
  rw [hstart] at hturns ⊢
  dsimp only at hturns
  rw [hqueues.changes, hchanges, hreached.admitted] at hturns
  exact ⟨rfl, .starts hid he hpending hunsubmitted hbehind hturns⟩

theorem ends_start {id : TaskId} (hreached : w.Reached)
    (hasked : arguments.get? "action" = some (.string "start"))
    (hid : arguments.get? "taskId" = some (.string id.text)) :
    ∃ result w', (perform context.token (.start id)).Acts now w result w' ∧
      Ends arguments context now w result w' := by
  refine ⟨_, _, Proc.Acts.map (Tasks.acts_onBoard _ now w) _, ?_⟩
  have hturns := w.turns_putBoard now (w.board.start id).2
  rcases w.board.start_cases id with ⟨error, hstart⟩ | ⟨e, he, hunsubmitted, hopen⟩
  · rw [hstart] at hturns ⊢
    exact .fails _ (hreached.rests hturns)
  · obtain rfl := Board.id_of_find? he
    obtain ⟨hok, hfulfils⟩ := fulfils_start hreached hid he hunsubmitted hopen hturns
    dsimp only
    rw [hok]
    exact .succeeds hasked hfulfils

theorem ends_cancel {id : TaskId} (hreached : w.Reached)
    (hasked : arguments.get? "action" = some (.string "cancel"))
    (hid : arguments.get? "taskId" = some (.string id.text)) :
    ∃ result w', (perform context.token (.cancel id)).Acts now w result w' ∧
      Ends arguments context now w result w' := by
  refine ⟨_, _, Proc.Acts.map (Tasks.acts_onBoard _ now w) _, ?_⟩
  have hturns := w.turns_putBoard now (w.board.cancel id (World.instantAt now)).2
  by_cases hopen : ∃ e, w.board.find? id = some e ∧ e.state.isTerminal = false
  · obtain ⟨e, he, hopen⟩ := hopen
    obtain rfl := Board.id_of_find? he
    rw [Board.cancel_open he hopen] at hturns ⊢
    have htaken : (w.board.pass e (Board.cancelledTask e.task (World.instantAt now))).taken =
        w.board.replace
          { e with task := Board.cancelledTask e.task (World.instantAt now) } := by
      show w.board.taken.replace _ = _
      rw [hreached.taken_board]
    have hevents : (w.board.pass e (Board.cancelledTask e.task
        (World.instantAt now))).changes.map (World.changeEvent now) =
          [eventOf now e.task .cancelled] := by
      show (w.board.changes ++ [_]).map _ = _
      rw [hreached.changes]
      rfl
    rw [htaken, hevents, show (w.board.pass _ _).admitted = [] from hreached.admitted] at hturns
    exact .succeeds hasked (.cancels hid he hopen (hturns.trip e.token))
  · have hdone : ∀ e, w.board.find? id = some e → e.state.isTerminal = true := by
      intro e he
      exact Bool.not_eq_false _ ▸ fun hnot => hopen ⟨e, he, hnot⟩
    rw [Board.cancel_done hdone] at hturns ⊢
    exact .succeeds hasked (.spares hid hdone (hreached.rests hturns))

end Acting

/-! ## Whole calls -/

variable {first m : Juncture (World η)} {p : Act η (Except ToolError ToolOutcome)}
  {progress : Progress (World η) (Except ToolError ToolOutcome)}

theorem answers_of_acts
    (hacts : ∃ result w, p.Acts first.now first.state result w ∧
      Ends arguments context first.now first.state result w)
    (h : Comes Passes p first m progress) : Answers arguments context m progress := by
  obtain ⟨result, w, hacts, hends⟩ := hacts
  obtain ⟨rfl, rfl⟩ := hacts.of_comes h
  exact .ends hends

/-- An action that only looks has changed nothing, however it has ended. -/
theorem answers_of_looks {asked : String}
    (hasked : arguments.get? "action" = some (.string asked))
    (hlooks : asked ∈ ["status", "wait", "wait_all", "wait_any"]) (hp : p.Looks)
    (h : Comes Passes p first m progress) : Answers arguments context m progress := by
  have hleaves := (hp.of_comes h).1
  cases progress with
  | panicked w => exact .waits (fun _ _ h => nomatch h) hleaves.state_eq
  | suspended t w => exact .waits (fun _ _ h => nomatch h) hleaves.state_eq
  | finished result w =>
      obtain rfl : w = m.state := hleaves
      cases result with
      | error e => exact .ends (.fails e (.refl _))
      | ok outcome => exact .ends (.succeeds hasked (.looks outcome hlooks))

/-- **Calls change what they say.** Whatever the arguments of a call of the task tool are and
however far it has come, it has no answer and has done nothing, or it failed and nothing is to be
seen of it, or it succeeded and has done to the world what the action that it names is for, and
nothing else. -/
theorem calls_change_what_they_say (settings : TaskSettings) (hreached : first.state.Reached)
    (hnew : first.state.board.find? (first.state.nextFresh first.now).task = none)
    (h : Comes Passes (execute settings arguments context) first m progress) :
    Answers arguments context m progress := by
  rw [execute_eq] at h
  have hcomes := h.of_observe
  cases hscheduler : first.state.hasScheduler with
  | false =>
      rw [hscheduler, if_neg Bool.false_ne_true] at hcomes
      exact answers_of_acts ⟨_, _, fun _ _ => rfl, .fails _ (.refl _)⟩ hcomes
  | true =>
      rw [hscheduler, if_pos rfl] at hcomes
      cases hread : Action.read settings arguments context with
      | error e =>
          rw [hread] at hcomes
          exact answers_of_acts ⟨_, _, fun _ _ => rfl, .fails e (.refl _)⟩ hcomes
      | ok action =>
          rw [hread] at hcomes
          obtain ⟨asked, hasked, hreads⟩ := reads_of_read hread
          -- three actions change the board, the others only look at it
          cases hreads with
          | create hasks hauto =>
              exact answers_of_acts (ends_create hreached hnew hasked hasks hauto) hcomes
          | start hid => exact answers_of_acts (ends_start hreached hasked hid) hcomes
          | cancel hid => exact answers_of_acts (ends_cancel hreached hasked hid) hcomes
          | list hstate =>
              exact answers_of_acts
                ⟨_, _, fun _ _ => rfl, .succeeds hasked (fulfils_list hstate)⟩ hcomes
          | status id =>
              exact answers_of_looks hasked (by simp) (looks_status context.token id) hcomes
          | wait id timeout =>
              exact answers_of_looks hasked (by simp)
                (looks_untilCancelled _ _ (Tasks.looks_wait id timeout)) hcomes
          | waitAll ids timeout =>
              exact answers_of_looks hasked (by simp)
                (looks_untilCancelled _ _ (Tasks.looks_waitAll ids timeout)) hcomes
          | waitAny ids timeout =>
              exact answers_of_looks hasked (by simp)
                (looks_untilCancelled _ _ (Tasks.looks_waitAny ids timeout)) hcomes

/-- Arguments that ask for a task that somebody starts later. -/
def laterArguments : Object :=
  .ofMembers
    [("action", .string "create"), ("autoStart", .bool false), ("description", .string "look")]

/-- The engine of a session at the top. -/
def topContext : ToolContext :=
  ⟨⟨"s"⟩, ⟨"c"⟩, 0, ⟨0⟩⟩

/-- A world in which nobody has asked for a task yet. -/
def quietWorld : World Unit :=
  World.new () (.empty none) (.empty 1 2 ["general"])

/-- A task is created and not started. -/
theorem calls_change_what_they_say_of_a_later_task :
    ∃ outcome w, Comes Passes (execute default laterArguments topContext) ⟨0, quietWorld⟩
        ⟨0, quietWorld⟩ (.finished (.ok outcome) w) ∧
      Fulfils laterArguments topContext 0 quietWorld "create" outcome w := by
  have hreached : quietWorld.Reached :=
    ⟨_, _, _, _, _, .refl, World.stages_new () (.empty none) 1 2 ["general"]⟩
  have hcomes : Comes Passes (execute default laterArguments topContext) ⟨0, quietWorld⟩
      ⟨0, quietWorld⟩ (.finished (.ok _) _) := .begun 0
  cases calls_change_what_they_say default hreached rfl hcomes with
  | waits hnone => exact (hnone _ _ rfl).elim
  | ends hends =>
      cases hends with
      | succeeds hasked hfulfils =>
          cases hasked
          exact ⟨_, _, hcomes, hfulfils⟩

end AgentSessions.TaskTool
