import AgentSessions.Proofs.Orchestration.Exclusive
import AgentSessions.Proofs.Orchestration.Panics
import AgentSessions.Proofs.Task.Office

/-!
# Premises

A floor and a site together, over one store: prompts run and histories are wiped on the floor, and
the tasks of the site have engines of their own, each in the child session of its task.
`Premises.Step` is one step of either side, and `Premises.Runs` any number of steps in any order.

The body of a task takes no lease at the desk, from its beginning to its end. So the desk answers
for a child session as for any other one: a prompt for it is let in, and its history is wiped,
whenever nobody else has called for it, and the two sides then save the same session in turn.
-/

set_option autoImplicit false

namespace AgentSessions

/-! ## The desk of an office and the bodies of tasks -/

namespace Office

variable {η : Type}

theorem desk_closeBody (id : TaskId) (result : Board.Result) (now : Nat) (w : World η) :
    (closeBody id result now w).desk = w.desk :=
  rfl

theorem desk_openBody (o : Office η) (id : TaskId) (now : Nat) (w : World η) :
    (o.openBody id now w).1.desk = w.desk := by
  unfold openBody
  cases w.board.begin id (World.instantAt now) with
  | mk begun b =>
      cases begun with
      | none => rfl
      | some task =>
          dsimp only
          cases o.build task.agentType task.depth with
          | error e => rfl
          | ok agent => rfl

/-- Whatever the body of a task does next, the desk stays as it is. -/
theorem desk_resume_body (o : Office η) (id : TaskId) (stage : BodyStage)
    (ending : Simulation.Ending Answer) (now : Nat) (w : World η) :
    (o.resume now (.body id stage) ending w).1.desk = w.desk := by
  cases stage with
  | opening =>
      cases ending with
      | returned answer => exact desk_openBody o id now w
      | panicked | dropped => exact desk_closeBody id panicked now w
  | running =>
      cases ending with
      | returned answer =>
          cases answer with
          | ran result => exact desk_closeBody id (resultOf result) now w
          | ready | loaded | wiped => rfl
      | panicked | dropped => rfl
  | closing result => cases ending <;> exact desk_closeBody id result now w

end Office

/-! ## Who may save -/

namespace Floor

variable {setup : Engine.Setup} {isChild isChild' : SessionId → Prop} {f f' : Floor}

theorem Step.mono {entries : List Entry} (h : Step setup isChild f entries f')
    (hsub : ∀ id, isChild id → isChild' id) : Step setup isChild' f entries f' := by
  cases h with
  | childSaves snapshot hchild => exact .childSaves _ snapshot (hsub _ hchild)
  | receives m queueIfBusy => exact .receives _ m queueIfBusy
  | wipes id => exact .wipes _ id
  | clears id => exact .clears _ id
  | cancels id => exact .cancels _ id
  | looksUp result hu hresult => exact .looksUp result hu hresult
  | answers answer hu => exact .answers answer hu
  | advances hu hanswer => exact .advances hu hanswer
  | abandons hu hworker => exact .abandons hu hworker

theorem StepOrPanic.mono {forsaken : List SessionId} (h : StepOrPanic setup isChild f forsaken f')
    (hsub : ∀ id, isChild id → isChild' id) : StepOrPanic setup isChild' f forsaken f' := by
  cases h with
  | steps hstep => exact .steps (hstep.mono hsub)
  | panics hu hcan => exact .panics hu hcan

/-- Nobody is at work on the session on the floor. -/
def Free (f : Floor) (id : SessionId) : Prop :=
  ∀ u ∈ f.underway, u.activity.session ≠ id

theorem RunsWithPanics.free_iff {maxBacklog : Option Nat} {store : SessionId → Option Snapshot}
    {forsaken : List SessionId}
    (h : RunsWithPanics setup isChild (opening maxBacklog store) forsaken f)
    (id : SessionId) : f.Free id ↔ f.desk.queue.isBusy id = false := by
  have hcount := h.orderlyBut.countP_underway h.drains_nil id
  constructor
  · intro hfree
    rw [List.countP_eq_zero.mpr fun u hu => by simpa using hfree u hu] at hcount
    cases hbusy : f.desk.queue.isBusy id with
    | false => rfl
    | true =>
        rw [hbusy] at hcount
        cases hcount
  · exact fun hidle u hu heq => h.orderlyBut.ne_of_idle hidle hu heq.symm

end Floor

/-! ## Premises -/

/-- A floor, a site, and the engines of the tasks that run there. -/
structure Premises where
  floor : Floor
  site : Site
  /-- What is left of the work of the engine of a task, if it has one. -/
  work : TaskId → Option (Dialogue Engine.Conclusion)

namespace Premises

/-- Nobody is at work. -/
def opening (maxBacklog : Option Nat) (store : SessionId → Option Snapshot) (maxConcurrent : Nat)
    (maxDepth : UInt32) (agentTypes : List String) : Premises :=
  ⟨.opening maxBacklog store, .opening maxConcurrent maxDepth agentTypes, fun _ => none⟩

/-- What is left of the work of engines when the engine of this task has come so far. -/
def workAfter (p : Premises) (id : TaskId) (rest : Option (Dialogue Engine.Conclusion)) :
    TaskId → Option (Dialogue Engine.Conclusion) :=
  fun id' => if id' = id then rest else p.work id'

/-- One step on the premises. The engine of a task is set up in any way, and is answered in any
way. -/
inductive Step (setup : Engine.Setup) : Premises → Premises → Prop where
  | onFloor {p : Premises} {forsaken : List SessionId} {f : Floor} :
      Floor.StepOrPanic setup (fun _ => False) p.floor forsaken f → Step setup p ⟨f, p.site, p.work⟩
  /-- A step at the site that neither starts an engine nor ends one. -/
  | atSite {p : Premises} {s : Site} :
      Site.Step p.site s →
      (∀ id, ⟨id, .running⟩ ∈ s.bodies ↔ ⟨id, .running⟩ ∈ p.site.bodies) →
      Step setup p ⟨p.floor, s, p.work⟩
  /-- The engine of a task is built over an empty session and started. -/
  | builds {p : Premises} {e : TaskEntry} {before after : List Body} (agent : Engine.Setup) :
      p.site.bodies = before ++ ⟨e.id, .building⟩ :: after → p.site.board.find? e.id = some e →
      Step setup p ⟨p.floor, { p.site with bodies := before ++ ⟨e.id, .running⟩ :: after },
        p.workAfter e.id
          (some (Engine.run agent (.empty e.task.childSessionId) e.task.description))⟩
  /-- The question of the engine of a task is answered. -/
  | answers {p : Premises} {e : TaskEntry} {question : Engine.Ask}
      {next : question.Answer → Dialogue Engine.Conclusion} (answer : question.Answer) :
      p.site.board.find? e.id = some e → p.work e.id = some (.ask question next) →
      Step setup p ⟨(p.floor.answered e.token e.task.childSessionId question answer).2, p.site,
        p.workAfter e.id (some (next answer))⟩
  | ends {p : Premises} {id : TaskId} {c : Engine.Conclusion} {before after : List Body}
      (now : Instant) :
      p.site.bodies = before ++ ⟨id, .running⟩ :: after → p.work id = some (.done c) →
      Step setup p ⟨p.floor, p.site.closeBody id (Office.resultOf c.2) now (before, after),
        p.workAfter id none⟩
  | panics {p : Premises} {id : TaskId} {question : Engine.Ask}
      {next : question.Answer → Dialogue Engine.Conclusion} {before after : List Body}
      (now : Instant) :
      p.site.bodies = before ++ ⟨id, .running⟩ :: after →
      p.work id = some (.ask question next) → question.isForeign = true →
      Step setup p ⟨p.floor, p.site.closeBody id Office.panicked now (before, after),
        p.workAfter id none⟩

/-- Any number of steps. -/
abbrev Runs (setup : Engine.Setup) : Premises → Premises → Prop :=
  Relation.ReflTransGen (Step setup)

/-! ## Both sides by themselves -/

section

variable {setup : Engine.Setup} {p p' : Premises} {maxBacklog : Option Nat}
  {store : SessionId → Option Snapshot} {maxConcurrent : Nat} {maxDepth : UInt32}
  {agentTypes : List String}

/-- A step on the premises is a step on the floor or leaves it as it is; tasks only save. -/
theorem Step.onFloor_or_same (h : Step setup p p') :
    (∃ forsaken, Floor.StepOrPanic setup (fun _ => True) p.floor forsaken p'.floor) ∨
      p'.floor = p.floor := by
  cases h with
  | onFloor hnext => exact .inl ⟨_, hnext.mono fun _ => False.elim⟩
  | @answers e question next answer hknown hwork =>
      dsimp only
      unfold Floor.answered
      split
      · exact .inl ⟨_, .steps (.childSaves p.floor _ trivial)⟩
      · exact .inr rfl
  | atSite | builds | ends | panics => exact .inr rfl

theorem Runs.withPanics
    (h : Runs setup (opening maxBacklog store maxConcurrent maxDepth agentTypes) p) :
    ∃ forsaken, Floor.RunsWithPanics setup (fun _ => True) (.opening maxBacklog store) forsaken
      p.floor := by
  induction h with
  | refl => exact ⟨[], .start⟩
  | tail _ hstep ih =>
      obtain ⟨forsaken, hfloor⟩ := ih
      rcases hstep.onFloor_or_same with ⟨more, hnext⟩ | hsame
      · exact ⟨forsaken ++ more, hfloor.step hnext⟩
      · rw [hsame]
        exact ⟨forsaken, hfloor⟩

/-- The tasks run as they do at a site by itself. -/
theorem Runs.site (h : Runs setup (opening maxBacklog store maxConcurrent maxDepth agentTypes) p) :
    Site.Runs (.opening maxConcurrent maxDepth agentTypes) p.site := by
  induction h with
  | refl => exact .refl
  | tail _ hstep ih =>
      cases hstep with
      | onFloor | answers => exact ih
      | atSite hsite hrunning => exact ih.tail hsite
      | builds agent hbodies hknown => exact ih.tail (.builds hbodies)
      | ends now hbodies hwork => exact ih.tail (.ends _ now hbodies)
      | panics now hbodies hwork hforeign => exact ih.tail (.ends _ now hbodies)

/-- **The desk overlooks tasks.** Whatever tasks run on the premises, and whichever session one of
them runs in: a prompt for a session is let in at once, and the lease to wipe its history is given,
exactly when nobody on the floor is at work on it. So a session has one engine on the floor at most,
but the engine of a task does not count; and what keeps the child session of a task to the task
alone is only that nobody calls for it. -/
theorem desk_overlooks_tasks
    (h : Runs setup (opening maxBacklog store maxConcurrent maxDepth agentTypes) p)
    (id : SessionId) :
    (∀ m queueIfBusy, m.sessionId = id →
        ((p.floor.desk.receive m queueIfBusy).1 = .granted ↔ p.floor.Free id)) ∧
      ((p.floor.desk.lease? id).isSome = true ↔ p.floor.Free id) ∧
      p.floor.engines id ≤ 1 ∧
      (p.floor.Free id → ∀ p', Step setup p p' →
        p'.floor.Free id ∨ Floor.CallsFor id p.floor p'.floor) := by
  obtain ⟨forsaken, hfloor⟩ := Runs.withPanics h
  have hfree := hfloor.free_iff id
  refine ⟨fun m queueIfBusy hm => ?_, ?_, ?_, fun hidle p' hstep => ?_⟩
  · rw [hfree, Desk.receive_granted_iff, hm]
  · rw [hfree, Desk.lease?_eq]
    cases p.floor.desk.queue.isBusy id <;> simp
  · have hle := p.floor.engines_le_underway id
    rw [hfloor.orderlyBut.countP_underway hfloor.drains_nil id] at hle
    split at hle <;> omega
  · obtain ⟨forsaken', hfloor'⟩ := Runs.withPanics (h.tail hstep)
    rcases hstep.onFloor_or_same with ⟨more, hnext⟩ | hsame
    · have hsame := hnext.sameAt_of_idle hfloor.orderlyBut (hfree.mp hidle)
      refine hsame.symm.imp_left fun hsame => ?_
      rw [hfloor'.free_iff, hsame.1]
      exact hfree.mp hidle
    · rw [hsame]
      exact .inl hidle

/-- So it is in an office: what becomes of a prompt does not depend on the tasks that run. -/
theorem Runs.receive_runs_iff
    (h : Runs setup (opening maxBacklog store maxConcurrent maxDepth agentTypes) p) {η : Type}
    {w : World η} {underway : List Underway} (hshows : w.Shows underway p.floor)
    (incoming : Incoming) (now : Nat) :
    (Office.receive incoming now w).1 = .runs (.direct incoming.session incoming.prompt) ↔
      p.floor.Free incoming.session := by
  obtain ⟨forsaken, hfloor⟩ := Runs.withPanics h
  rw [hfloor.free_iff, hshows.desk]
  generalize hm : (⟨(w.mint MessageId.fresh now).1, incoming.session, incoming.prompt,
    incoming.priority, .empty, World.instantAt now⟩ : QueuedMessage) = m
  have hsession : m.sessionId = incoming.session := by rw [← hm]
  have hminted : (w.mint MessageId.fresh now).2.desk = w.desk := rfl
  have hgranted := w.desk.receive_granted_iff m incoming.queueIfBusy
  rw [hsession] at hgranted
  rw [← hgranted]
  unfold Office.receive
  simp only [hminted, hm]
  cases w.desk.receive m incoming.queueIfBusy with
  | mk admission desk => cases admission <;> simp

end

/-! ## Two engines in one session -/

/-- A step at a site at which no engine is at work, before or after. -/
theorem Runs.atSite {setup : Engine.Setup} {start p : Premises} (h : Runs setup start p) {s : Site}
    (hstep : Site.Step p.site s)
    (hbefore : (p.site.bodies.any fun body => body.stage == .running) = false)
    (hafter : (s.bodies.any fun body => body.stage == .running) = false) :
    Runs setup start ⟨p.floor, s, p.work⟩ := by
  have hnone {bodies : List Body} (hany : (bodies.any fun body => body.stage == .running) = false)
      (id : TaskId) : ⟨id, .running⟩ ∉ bodies := by
    intro hmem
    exact List.any_eq_false.mp hany _ hmem rfl
  exact h.tail (.atSite hstep fun id => iff_of_false (hnone hafter id) (hnone hbefore id))

/-- A task that runs in the session `s`. -/
def lookAround : TaskEntry where
  task :=
    { Board.newTask (Site.errand "look around") ⟨⟨"task"⟩, ⟨"s"⟩, ⟨9⟩⟩ default with
      state := .running
      startedAt := some default }
  submitted := true
  token := ⟨9⟩

theorem Runs.onFloor {setup : Engine.Setup} {start p : Premises} (h : Runs setup start p)
    {log : List Entry} {f : Floor} (hruns : Floor.Runs setup (fun _ => False) p.floor log f) :
    Runs setup start ⟨f, p.site, p.work⟩ := by
  induction hruns with
  | start => exact h
  | step _ hstep ih => exact ih.tail (.onFloor (.steps hstep))

/-- The engine of the task has just been started, and nobody has called for its session. -/
def taskStarted (site : Site) : Premises where
  floor := .opening none fun _ => none
  site := site
  work id :=
    if id = ⟨"task"⟩ then some (Engine.run .plain (.empty ⟨"s"⟩) "look around") else none

theorem runs_taskStarted : ∃ site,
    Runs .plain (opening none (fun _ => none) 1 1 ["general"]) (taskStarted site) ∧
      site.board.find? ⟨"task"⟩ = some lookAround := by
  have hstart : Runs .plain (opening none (fun _ => none) 1 1 ["general"]) _ := .refl
  have hcreated := hstart.atSite (.creates (Site.errand "look around")
    ⟨⟨"task"⟩, ⟨"s"⟩, ⟨9⟩⟩ default rfl) rfl rfl
  have hopened := hcreated.atSite (.opens default (Site.alone rfl)) rfl rfl
  have hbuilt := hopened.tail (.builds (e := lookAround) .plain (Site.alone rfl) rfl)
  exact ⟨_, hbuilt, rfl⟩

/-- Nobody has called for the session of the task, so a prompt for it is let in. -/
theorem desk_overlooks_task_at_work :
    ∃ p, Runs .plain (opening none (fun _ => none) 1 1 ["general"]) p ∧
      p.site.board.find? ⟨"task"⟩ = some lookAround ∧ p.floor.Free ⟨"s"⟩ ∧
      (p.floor.desk.receive (Floor.promptFor "intruder") true).1 = .granted ∧
      p.floor.engines ⟨"s"⟩ ≤ 1 := by
  obtain ⟨site, hstart, hknown⟩ := runs_taskStarted
  have hdesk := desk_overlooks_tasks hstart ⟨"s"⟩
  have hfree : (taskStarted site).floor.Free ⟨"s"⟩ := fun u hu => (nomatch hu)
  exact ⟨_, hstart, hknown, hfree, (hdesk.1 _ true rfl).mpr hfree, hdesk.2.2.1⟩

/-- What the engine of the task saves. -/
def taskHistory : Snapshot :=
  ⟨[.user "look around" default, .system "Run cancelled." default], []⟩

/-- What the engine saves that runs a prompt in the same session. -/
def intruderHistory : Snapshot :=
  ⟨[.user "intruder" default, .system "Run cancelled." default], []⟩

/-- While a task runs, a prompt for its child session is let in, and its history could as well be
wiped. There are two engines for the session then, which save in turn, and what the engine of the
task saved is lost. -/
theorem child_session_has_two_engines :
    lookAround.task.state = .running ∧ lookAround.task.childSessionId = ⟨"s"⟩ ∧
      ∃ p p' p'', Runs .plain (opening none (fun _ => none) 1 1 ["general"]) p ∧
      (p.floor.desk.receive (Floor.promptFor "intruder") true).1 = .granted ∧
      (p.floor.desk.lease? ⟨"s"⟩).isSome = true ∧
      Runs .plain p p' ∧ p'.floor.engines ⟨"s"⟩ = 1 ∧
      p'.floor.store ⟨"s"⟩ = some taskHistory ∧
      Runs .plain p' p'' ∧ p''.floor.engines ⟨"s"⟩ = 1 ∧
      p''.floor.store ⟨"s"⟩ = some intruderHistory ∧
      ∀ q ∈ [p, p', p''], q.site.board.find? ⟨"task"⟩ = some lookAround ∧
        (q.work ⟨"task"⟩).isSome = true := by
  obtain ⟨site, hstart, hknown⟩ := runs_taskStarted
  have hcame : Floor.Runs .plain (fun _ => False) (taskStarted site).floor _ _ :=
    .step .start (.receives _ (Floor.promptFor "intruder") true)
  have hmade := (hcame.step (.looksUp (.ok none) (Floor.alone rfl)
    fun _ h => (Except.ok.inj h).symm)).step (.advances (Floor.alone rfl) rfl)
  have hlet : Runs .plain (taskStarted site) _ := Runs.onFloor .refl hmade
  -- the engine of the task begins, turns out to be cancelled, and saves
  have hnoted := (((hlet.tail (.answers (e := lookAround) () hknown rfl)).tail
    (.answers (e := lookAround) default hknown rfl)).tail
    (.answers (e := lookAround) true hknown rfl)).tail
    (.answers (e := lookAround) default hknown rfl)
  have hsaved := hnoted.tail (.answers (e := lookAround)
    (show (Engine.Ask.save taskHistory).Answer from .ok ()) hknown rfl)
  -- so does the other one, over the empty session that it has loaded before
  have hstays {p' : Premises} (_ : Runs .plain (taskStarted site) p') : Runs .plain p' p' := .refl
  have hbegun := ((hstays hsaved).tail (.onFloor (.steps (.answers () (Floor.alone rfl))))).tail
    (.onFloor (.steps (.answers default (Floor.alone rfl))))
  have hstopped := (hbegun.tail (.onFloor (.steps (.answers true (Floor.alone rfl))))).tail
    (.onFloor (.steps (.answers default (Floor.alone rfl))))
  have hreplaced := hstopped.tail (.onFloor (.steps (.answers
    (show (Engine.Ask.save intruderHistory).Answer from .ok ()) (Floor.alone rfl))))
  refine ⟨rfl, rfl, _, _, _, hstart, rfl, rfl, hsaved, rfl, rfl, hreplaced, rfl, rfl,
    fun q hq => ?_⟩
  simp only [List.mem_cons, List.not_mem_nil, or_false] at hq
  obtain rfl | rfl | rfl := hq
  all_goals exact ⟨hknown, rfl⟩

end Premises

end AgentSessions
