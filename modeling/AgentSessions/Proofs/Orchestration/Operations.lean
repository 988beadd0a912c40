import AgentSessions.Proofs.Engine.Clocks
import AgentSessions.Proofs.Orchestration.Running

/-!
# Operations in any order

With collaborators whose answers depend on nothing but what they are asked (`Oracle`), what happens
on a floor is fixed by the order in which things are done. An operation (`Floor.Op`) is done for one
session: a prompt comes in, the history is to be wiped, the backlog is dropped, the run is
cancelled, the work that is under way takes its next step, or this work is cut short. What can be
seen of an operation are its `Sight`s: replies, reports, events, saves, and which prompts were
handed over and run. `Floor.play` does operations one after the other, so a list of operations of
several sessions is an execution in which they interleave.

Every operation is a step on the floor, or the work on a session is cut short
(`perform_stepCutOrTrip`), so what holds whatever happens there holds after every operation
(`Floor.InOrder`).
-/

set_option autoImplicit false

namespace AgentSessions

open Json (Object)
open Engine (Ask)

/-! ## Collaborators -/

/-- What the collaborators of all engines answer, and when the store fails. -/
structure Oracle where
  model : ModelRequest → Except ModelError ModelResponse
  summarize : List Turn → Except SummarizerError String
  check : Nat → PreRequest → PreOutcome
  confirm : ConfirmationRequest → Except HookError Bool
  tool : SessionId → String → Object → CallId → ToolOutcome
  review : Nat → PostRequest → PostOutcome
  loadError? : SessionId → Option StoreError
  saveError? : SessionId → Snapshot → Option StoreError

namespace Oracle

/-- The answer to a question of an engine that works on a session, at this time and with its token
tripped or not. -/
def answer (o : Oracle) (id : SessionId) (tripped : Bool) (now : Instant) :
    (question : Ask) → question.Answer
  | .now => now
  | .isCancelled => tripped
  | .chat request => if tripped then none else some (o.model request)
  | .consult request => o.model request
  | .summarize turns => o.summarize turns
  | .check number request => o.check number request
  | .confirm request => o.confirm request
  | .execute tool arguments call => if tripped then none else some (o.tool id tool arguments call)
  | .review number request => o.review number request
  | .save snapshot =>
      match o.saveError? id snapshot with
      | some e => .error e
      | none => .ok ()
  | .report _ => ()
  | .warn _ => ()

/-- What is found when a session is looked up of which this is stored. -/
def load (o : Oracle) (id : SessionId) (stored : Option Snapshot) :
    Except StoreError (Option Snapshot) :=
  match o.loadError? id with
  | some e => .error e
  | none => .ok stored

/-- Nobody looks at more of the clock than a view of time shows. -/
structure Respects (o : Oracle) (view : Instant → Instant) : Prop where
  model : ∀ request, o.model (request.retime view) = o.model request
  summarize : ∀ turns, o.summarize (turns.map (Turn.retime view)) = o.summarize turns
  saveError? : ∀ id snapshot, o.saveError? id (snapshot.retime view) = o.saveError? id snapshot

/-- Whatever they look at, they look at no more than the time as it is. -/
theorem respects_id (o : Oracle) : o.Respects id := by
  refine ⟨fun request => ?_, fun turns => ?_, fun session snapshot => ?_⟩
  · rw [ModelRequest.retime_id]
  · rw [Turn.retime_id, List.map_id]
  · rw [Snapshot.retime_id]

theorem load_retime (o : Oracle) (view : Instant → Instant) (id : SessionId)
    (stored : Option Snapshot) :
    o.load id (stored.map (Snapshot.retime view)) =
      (o.load id stored).map (Option.map (Snapshot.retime view)) := by
  unfold load
  cases o.loadError? id with
  | some e => rfl
  | none => rfl

theorem Respects.answer {o : Oracle} {view : Instant → Instant} (h : o.Respects view)
    (id : SessionId) (tripped : Bool) (now : Instant) (question : Ask) :
    o.answer id tripped (view now) (question.retime view) =
      question.carry view (o.answer id tripped now question) := by
  cases question with
  | chat request =>
      show (if tripped then none else some (o.model (request.retime view))) = _
      rw [h.model]
      rfl
  | consult request => exact h.model request
  | summarize turns => exact h.summarize turns
  | save snapshot =>
      dsimp only [Oracle.answer, Ask.retime]
      rw [h.saveError?]
      rfl
  | now | isCancelled | check | confirm | execute | review | report | warn => rfl

end Oracle

/-! ## What can be seen -/

/-- What can be seen of an operation. -/
inductive Sight where
  | noted (e : Entry)
  /-- The one who asked for a run or for a wiping is told what came of it. -/
  | told (report : Report)
  | published (body : EventBody)
  /-- Whether the history begins to be wiped. -/
  | begun (wiping : Bool)
  /-- Whether there was a run to cancel. -/
  | found (running : Bool)

/-- What can be seen of a question that is answered. -/
def Engine.Ask.sights : Ask → List Sight
  | .report body => [.published body]
  | _ => []

/-- What is told when an activity goes on or ends. -/
def Course.sights : Course → List Sight
  | .ended report => [.told report]
  | .goesOn _ _ => []

namespace Floor

/-! ## Operations -/

/-- Something that is done for one session. -/
inductive Op where
  | receive (m : QueuedMessage) (queueIfBusy : Bool)
  | wipe (id : SessionId)
  | clear (id : SessionId)
  | cancel (id : SessionId)
  /-- The work on a session takes its next step, at this time. -/
  | goOn (id : SessionId) (now : Instant)
  /-- The work on a session is dropped, or something panics under it. -/
  | cut (id : SessionId)

/-- The session for which an operation is done. -/
def Op.session : Op → SessionId
  | receive m _ => m.sessionId
  | wipe id | clear id | cancel id | goOn id _ | cut id => id

/-- Something happens to the work on a session, if there is any; `step` gets what else is under way
before and after it. -/
def atWork (f : Floor) (id : SessionId)
    (step : Underway → List Underway × List Underway → List Sight × Floor) : List Sight × Floor :=
  match f.underway.dropWhile fun u => decide (u.activity.session ≠ id) with
  | [] => ([], f)
  | u :: after => step u (f.underway.takeWhile fun u => decide (u.activity.session ≠ id), after)

/-- An activity gets what it waited for, and what can be seen of that. -/
def advanceSeen (setup : Engine.Setup) (f : Floor) (a : Activity) (answer : Answer)
    (others : List Underway × List Underway) : List Sight × Floor :=
  let (entries, f') := f.advance setup a answer others
  (entries.map .noted ++ (a.advance ⟨f.nextToken⟩ answer f.desk).1.sights, f')

/-- The next step of a piece of work: the store looks its session up, a question of its engine is
answered, or it gets what it waited for. -/
def goOn (setup : Engine.Setup) (o : Oracle) (now : Instant) (f : Floor) (u : Underway)
    (others : List Underway × List Underway) : List Sight × Floor :=
  let id := u.activity.session
  match u.pending with
  | .turn => f.advanceSeen setup u.activity .ready others
  | .load =>
      let found := Pending.found (o.load id (f.store id))
      ([], { f with underway := others.1 ++ ⟨u.activity, found⟩ :: others.2 })
  | .found result => f.advanceSeen setup u.activity (.loaded result) others
  | .engine _ (.done answer) => f.advanceSeen setup u.activity answer others
  | .engine token (.ask question next) =>
      let answer := o.answer id (f.tripped.contains token) now question
      let (entries, f') := f.answered token id question answer
      (entries.map .noted ++ question.sights,
        { f' with underway := others.1 ++ ⟨u.activity, .engine token (next answer)⟩ :: others.2 })

/-- Does an operation. Where there is no work on the session, none goes on or is cut short. -/
def perform (setup : Engine.Setup) (o : Oracle) (f : Floor) : Op → List Sight × Floor
  | .receive m queueIfBusy =>
      let (entries, f') := f.receive m queueIfBusy
      (entries.map .noted, f')
  | .wipe id => ([.begun (!f.desk.queue.isBusy id)], f.wipe id)
  | .clear id =>
      let (entries, f') := f.clearBacklog id
      (entries.map .noted, f')
  | .cancel id => ([.found (f.desk.running? id).isSome], f.cancel id)
  | .goOn id now => f.atWork id (goOn setup o now f)
  | .cut id => f.atWork id fun u others => ([], f.abandon u.activity others)

/-- Does one operation after the other, and keeps for which session each sight was. -/
def play (setup : Engine.Setup) (o : Oracle) (f : Floor) :
    List Op → List (SessionId × Sight) × Floor
  | [] => ([], f)
  | op :: rest =>
      let (sights, f') := f.perform setup o op
      let (more, f'') := play setup o f' rest
      (sights.map (op.session, ·) ++ more, f'')

/-- What was seen for a session. -/
def seenFor (id : SessionId) (seen : List (SessionId × Sight)) : List Sight :=
  (seen.filter fun s => decide (s.1 = id)).map (·.2)

/-! ## Finding work -/

/-- The work under way for a session. -/
def worksOn (f : Floor) (id : SessionId) : List Underway :=
  f.underway.filter fun u => decide (u.activity.session = id)

/-- What happens to the work on a session happens to some work on it, or there is none. -/
theorem atWork_cases (f : Floor) (id : SessionId)
    (step : Underway → List Underway × List Underway → List Sight × Floor) :
    f.worksOn id = [] ∧ f.atWork id step = ([], f) ∨
      ∃ u before after, f.underway = before ++ u :: after ∧ u.activity.session = id ∧
        f.atWork id step = step u (before, after) := by
  have hsplit := List.takeWhile_append_dropWhile
    (p := fun u : Underway => decide (u.activity.session ≠ id)) (l := f.underway)
  have hhead := List.head?_dropWhile_not (fun u : Underway => decide (u.activity.session ≠ id))
    f.underway
  unfold atWork worksOn
  cases hdrop : f.underway.dropWhile fun u => decide (u.activity.session ≠ id) with
  | nil =>
      refine .inl ⟨List.filter_eq_nil_iff.mpr fun u hu => ?_, rfl⟩
      have hall := List.all_takeWhile
        (p := fun u : Underway => decide (u.activity.session ≠ id)) (l := f.underway)
      rw [hdrop, List.append_nil] at hsplit
      rw [hsplit] at hall
      simpa using List.all_eq_true.mp hall u hu
  | cons u after =>
      rw [hdrop] at hsplit hhead
      exact .inr ⟨u, _, after, hsplit.symm, by simpa using hhead, rfl⟩

/-- What holds if nothing happens, and of what comes of any work on a session, holds of what happens
to the work on it. -/
theorem atWork_of {P : List Sight × Floor → Prop} {f : Floor} {id : SessionId}
    {step : Underway → List Underway × List Underway → List Sight × Floor} (hnone : P ([], f))
    (hstep : ∀ u before after, f.underway = before ++ u :: after → u.activity.session = id →
      P (step u (before, after))) : P (f.atWork id step) := by
  rcases f.atWork_cases id step with ⟨-, hsame⟩ | ⟨u, before, after, hu, hsession, heq⟩
  · rw [hsame]
    exact hnone
  · rw [heq]
    exact hstep u before after hu hsession

/-! ## Operations as steps -/

variable {setup : Engine.Setup} {isChild : SessionId → Prop} {f : Floor}

theorem goOn_stepCutOrTrip (o : Oracle) (now : Instant) {u : Underway}
    {before after : List Underway} (hu : f.underway = before ++ u :: after) :
    StepCutOrTrip setup isChild f (goOn setup o now f u (before, after)).2 := by
  obtain ⟨a, pending⟩ := u
  cases pending with
  | turn => exact .steps (.advances hu rfl)
  | load =>
      refine .steps (.looksUp (o.load a.session (f.store a.session)) hu fun snapshot h => ?_)
      unfold Oracle.load at h
      split at h
      · cases h
      · exact (Except.ok.inj h).symm
  | found result => exact .steps (.advances hu rfl)
  | engine token rest =>
      cases rest with
      | done answer => exact .steps (.advances hu rfl)
      | ask question next => exact .steps (.answers _ hu)

/-- An operation changes nothing, or it is something that happens on the floor. -/
theorem perform_stepCutOrTrip (o : Oracle) (op : Op) :
    (f.perform setup o op).2 = f ∨ StepCutOrTrip setup isChild f (f.perform setup o op).2 := by
  cases op with
  | receive m queueIfBusy => exact .inr (.steps (.receives f m queueIfBusy))
  | wipe id => exact .inr (.steps (.wipes f id))
  | clear id => exact .inr (.steps (.clears f id))
  | cancel id => exact .inr (.steps (.cancels f id))
  | goOn id now =>
      exact atWork_of (P := fun r => r.2 = f ∨ StepCutOrTrip setup isChild f r.2) (.inl rfl)
        fun u before after hu _ => .inr (goOn_stepCutOrTrip o now hu)
  | cut id =>
      exact atWork_of (P := fun r => r.2 = f ∨ StepCutOrTrip setup isChild f r.2) (.inl rfl)
        fun u before after hu _ => .inr (.cuts hu)

/-- What holds of a floor whatever happened on it. -/
structure InOrder (f : Floor) : Prop where
  leases : f.OrderlyBut fun _ => True
  tokens : f.Registered
  drains : f.desk.drains = []

theorem inOrder_opening (maxBacklog : Option Nat) (store : SessionId → Option Snapshot) :
    (opening maxBacklog store).InOrder :=
  ⟨(orderly_opening maxBacklog store).but _, registered_opening maxBacklog store, rfl⟩

theorem InOrder.stepCutOrTrip {f' : Floor} (h : f.InOrder)
    (hnext : StepCutOrTrip setup isChild f f') : f'.InOrder := by
  refine ⟨h.leases.stepCutOrTrip hnext, h.tokens.stepCutOrTrip h.leases hnext, ?_⟩
  cases hnext with
  | steps hstep => exact hstep.drains_nil h.drains
  | cuts => rfl
  | elsewhere => exact h.drains

theorem InOrder.perform (h : f.InOrder) (o : Oracle) (op : Op) :
    (f.perform setup o op).2.InOrder := by
  have hperformed : (f.perform setup o op).2 = f ∨ StepCutOrTrip setup (fun _ => False) f _ :=
    perform_stepCutOrTrip o op
  rcases hperformed with hsame | hnext
  · rw [hsame]
    exact h
  · exact h.stepCutOrTrip hnext

/-- There is no other work on the session of a piece of work. -/
theorem InOrder.worksOn_split (h : f.InOrder) {u : Underway} {before after : List Underway}
    (hu : f.underway = before ++ u :: after) :
    f.worksOn u.activity.session = [u] ∧
      (before.filter fun v => decide (v.activity.session = u.activity.session)) = [] ∧
      (after.filter fun v => decide (v.activity.session = u.activity.session)) = [] := by
  have hnone : ∀ others : List Underway, (∀ v ∈ others, v ∈ before ++ after) →
      (others.filter fun v => decide (v.activity.session = u.activity.session)) = [] := by
    intro others hsub
    refine List.filter_eq_nil_iff.mpr fun v hv => ?_
    simpa using h.leases.others hu v (hsub v hv)
  have hbefore := hnone before fun v => List.mem_append_left _
  have hafter := hnone after fun v => List.mem_append_right _
  refine ⟨?_, hbefore, hafter⟩
  rw [worksOn, hu, List.filter_append, List.filter_cons_of_pos (by simp), hbefore, hafter]
  rfl

end Floor

end AgentSessions
