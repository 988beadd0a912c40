import AgentSessions.Proofs.Delegation.Staff
import AgentSessions.Proofs.Delegation.Tools

/-!
# Where engines come from

What is settled of a task when it is created stays, so what an engine is given stays true of it: one
at the top level has depth zero and the tools of the top level, and one that works on a task has the
session and the depth of its task and the tools of the profile that the task names (`Staff.Fits`).
A task that was delegated is one level deeper than the engine that asked for it
(`Staff.Delegated`). Both hold of every staff that steps lead to (`Staff.Runs.sound`).
-/

set_option autoImplicit false

namespace AgentSessions

open Json (Object)
open Simulation (Proc Progress advance)

variable {η : Type} {tasks : TaskSettings}

namespace Board

/-! ## Boards under the limit -/

/-- The board has its limit from the settings, and every task keeps to it. -/
structure Limited (tasks : TaskSettings) (b : Board) : Prop where
  maxDepth : b.maxDepth = tasks.maxDepth
  mandate : ∀ {id m}, b.mandate? id = some m → m.depth ≤ tasks.maxDepth

/-- Every task stays, and the limit is kept. -/
structure Grows (tasks : TaskSettings) (b b' : Board) : Prop where
  limited : b.Limited tasks → b'.Limited tasks
  stays : ∀ {id m}, b.mandate? id = some m → b'.mandate? id = some m

theorem Keeps.grows {b b' : Board} (h : b.Keeps b') : b.Grows tasks b' where
  limited hb := ⟨h.maxDepth.trans hb.maxDepth, fun hm => hb.mandate ((h.mandate? _).symm.trans hm)⟩
  stays hm := (h.mandate? _).trans hm

theorem Adds.grows {b b' : Board} {id : TaskId} {m : Mandate} (h : b.Adds id m b')
    (hnew : b.find? id = none) (hdepth : m.depth ≤ b.maxDepth) : b.Grows tasks b' where
  limited hb := by
    refine ⟨h.maxDepth.trans hb.maxDepth, fun {id' m'} hm => ?_⟩
    rw [h.mandate?] at hm
    split at hm
    · cases hm
      exact hb.maxDepth ▸ hdepth
    · exact hb.mandate hm
  stays {id' m'} hm := by
    rw [h.mandate?, if_neg]
    · exact hm
    · rintro rfl
      rw [mandate?_eq_none hnew] at hm
      cases hm

theorem limited_empty (maxConcurrent : Nat) (agentTypes : List String) :
    (Board.empty maxConcurrent tasks.maxDepth agentTypes).Limited tasks :=
  ⟨rfl, fun hm => nomatch hm⟩

end Board

/-! ## Bodies -/

namespace Office

theorem keeps_closeBody (id : TaskId) (result : Board.Result) (now : Nat) (w : World η) :
    w.board.Keeps (closeBody id result now w).board :=
  ((w.board.keeps_finish id result _).trans (Board.keeps_vacate _)).trans (Board.keeps_taken _)

theorem keeps_openBody (o : Office η) (id : TaskId) (now : Nat) (w : World η) :
    w.board.Keeps (o.openBody id now w).1.board := by
  have hbegin := w.board.keeps_begin id (World.instantAt now)
  unfold openBody
  generalize w.board.begin id (World.instantAt now) = opened at hbegin ⊢
  obtain ⟨begun, board⟩ := opened
  cases begun with
  | none => exact (hbegin.trans (Board.keeps_vacate _)).trans (Board.keeps_taken _)
  | some task =>
      have hput := hbegin.trans (Board.keeps_taken _)
      dsimp only
      cases o.build task.agentType task.depth with
      | error e => exact hput.trans (keeps_closeBody id _ now (w.putBoard now board))
      | ok agent => exact hput

end Office

/-- The task that begins is on the board. -/
theorem Board.mandate?_of_begin {b b' : Board} {id : TaskId} {now : Instant} {task : Task}
    (h : b.begin id now = (some task, b')) : b.mandate? id = some task.mandate := by
  have hkeeps := b.keeps_begin id now
  rw [h] at hkeeps
  have hfound : b'.get? id = some task := by
    unfold begin at h
    split at h
    · obtain ⟨hget, rfl⟩ := Prod.mk.inj h
      exact hget
    · cases h
  rw [← hkeeps.mandate?, Board.mandate?, hfound, Option.map_some]

/-- The engine that is started for a task has the session and the depth that were settled, and the
tools of its profile. -/
theorem Office.recruit_cases {tools : ToolRegistry (Act η)} {engine : EngineSettings} {o : Office η}
    (hbuild : o.build = (Delegation.ofSettings tools engine tasks).build) {id : TaskId} {now : Nat}
    {w : World η} {m : Member η} (h : o.recruit id now w = some m) :
    ∃ mandate profile, m.task = some id ∧ w.board.mandate? id = some mandate ∧
      m.seat.session = mandate.session ∧ m.seat.depth = mandate.depth ∧
      tasks.agents.get? mandate.agentType = some profile ∧
      m.tools = (Delegation.ofSettings tools engine tasks).toolsFor profile mandate.depth := by
  unfold recruit at h
  cases hbegin : w.board.begin id (World.instantAt now) with
  | mk begun board =>
  rw [hbegin] at h
  cases begun with
  | none => cases h
  | some task =>
      have hmandate := Board.mandate?_of_begin hbegin
      dsimp only at h
      cases hagent : o.build task.agentType task.depth with
      | error e =>
          rw [hagent] at h
          cases h
      | ok agent =>
          rw [hagent] at h
          cases h
          rw [hbuild, Delegation.build] at hagent
          split at hagent
          · cases hagent
          · rename_i profile hprofile
            cases hagent
            exact ⟨_, profile, rfl, hmandate, rfl, rfl, hprofile, rfl⟩

/-! ## Calls -/

/-- An engine that has the task tool calls it: the world stays as it is, or the tool does at once
what it does. -/
theorem Member.call_cases (o : Office η) {m : Member η}
    (hholds : m.tools.get? TaskTool.name = some (TaskTool.tool tasks)) (arguments : Object)
    (id : CallId) {now : Nat} {w : World η} (hnew : w.board.find? (w.nextFresh now).task = none) :
    (advance now (m.call o TaskTool.name arguments id) [] w).Leaves w ∨
      ∃ result w', advance now (m.call o TaskTool.name arguments id) [] w =
          .finished (some (ToolRegistry.settle result)) w' ∧
        TaskTool.Does (m.context id) now w result w' := by
  have hcall : m.call o TaskTool.name arguments id =
      Proc.orTripped (World.isTripped m.seat.token)
        (ToolRegistry.settle <$> TaskTool.execute tasks arguments (m.context id)) := by
    show Proc.orTripped _ (ToolRegistry.execute m.tools TaskTool.name arguments _) = _
    rw [ToolRegistry.execute, hholds]
    rfl
  rw [hcall]
  rcases TaskTool.execute_cases tasks arguments (m.context id) hnew with
    hlooks | ⟨result, w', hacts, hdoes⟩
  · left
    exact (Proc.looks_orTripped (hlooks.map _) _).advance now (List.forall_mem_nil _) w
  · cases htripped : w.isTripped m.seat.token with
    | true =>
        left
        rw [Proc.orTripped, advance, if_pos htripped]
        rfl
    | false =>
        right
        refine ⟨result, w', ?_, hdoes⟩
        rw [Proc.orTripped, advance, htripped, if_neg Bool.false_ne_true,
          hacts.map ToolRegistry.settle]
        rfl

namespace Staff

/-! ## What holds of every staff -/

/-- Where an engine comes from: it is one of the top level, or it works on a task, in the session
and at the depth of the task and with the tools of its profile. -/
inductive Fits (tools : ToolRegistry (Act η)) (engine : EngineSettings) (tasks : TaskSettings)
    (b : Board) (m : Member η) : Prop where
  | attends : m.task = none → m.seat.depth = 0 → m.tools = topLevelTools tools tasks →
      Fits tools engine tasks b m
  | works {id : TaskId} {mandate : Mandate} {profile : AgentProfile} :
      m.task = some id → b.mandate? id = some mandate → m.seat.session = mandate.session →
      m.seat.depth = mandate.depth → tasks.agents.get? mandate.agentType = some profile →
      m.tools = (Delegation.ofSettings tools engine tasks).toolsFor profile mandate.depth →
      Fits tools engine tasks b m

theorem Fits.grows {tools : ToolRegistry (Act η)} {engine : EngineSettings} {b b' : Board}
    {m : Member η} (h : Fits tools engine tasks b m) (hb : b.Grows tasks b') :
    Fits tools engine tasks b' m := by
  cases h with
  | attends htask hdepth htools => exact .attends htask hdepth htools
  | works htask hmandate hsession hdepth hprofile htools =>
      exact .works htask (hb.stays hmandate) hsession hdepth hprofile htools

/-- A task was delegated by an engine that has the task tool, one level deeper. -/
structure Delegated (tasks : TaskSettings) (b : Board) (m : Member η) (id : TaskId) : Prop where
  holds : m.tools.get? TaskTool.name = some (TaskTool.tool tasks)
  mandate : ∃ mandate, b.mandate? id = some mandate ∧
    mandate.parent = some m.seat.session ∧ mandate.depth = m.seat.depth + 1

/-- What holds of every staff. -/
structure Sound (tools : ToolRegistry (Act η)) (engine : EngineSettings) (tasks : TaskSettings)
    (s : Staff η) : Prop where
  limited : s.world.board.Limited tasks
  members : ∀ m ∈ s.members, Fits tools engine tasks s.world.board m
  delegations : ∀ d ∈ s.delegations,
    d.1 ∈ s.members ∧ Delegated tasks s.world.board d.1 d.2

variable {tools : ToolRegistry (Act η)} {engine : EngineSettings} {s : Staff η}

theorem sound_opening (host : η) (queue : QueueSettings) :
    (opening host queue tasks).Sound tools engine tasks :=
  ⟨Board.limited_empty _ _, List.forall_mem_nil _, List.forall_mem_nil _⟩

/-- The board grows, and nobody is started. -/
theorem Sound.grows (h : s.Sound tools engine tasks) {world : World η}
    (hgrows : s.world.board.Grows tasks world.board) :
    Sound tools engine tasks { s with world := world } where
  limited := hgrows.limited h.limited
  members m hm := (h.members m hm).grows hgrows
  delegations d hd := by
    obtain ⟨hmem, hholds, mandate, hmandate, hof⟩ := h.delegations d hd
    exact ⟨hmem, hholds, mandate, hgrows.stays hmandate, hof⟩

/-- Somebody is started. -/
theorem Sound.join (h : s.Sound tools engine tasks) {new : List (Member η)}
    (hnew : ∀ m ∈ new, Fits tools engine tasks s.world.board m) :
    Sound tools engine tasks { s with members := s.members ++ new } where
  limited := h.limited
  members m hm := (List.mem_append.mp hm).elim (h.members m) (hnew m)
  delegations d hd :=
    (h.delegations d hd).imp_left fun hmem => List.mem_append_left _ hmem

/-! ## Steps -/

/-- A task that is new has a mandate now and had none before. -/
theorem mandate?_of_newTasks {b b' : Board} {task : TaskId} (h : task ∈ newTasks b b') :
    b.mandate? task = none ∧ b'.mandate? task ≠ none := by
  obtain ⟨hmem, hnew⟩ := List.mem_filter.mp h
  refine ⟨Board.mandate?_eq_none (Option.isNone_iff_eq_none.mp hnew), fun hmandate => ?_⟩
  obtain ⟨e, he, hid⟩ := List.mem_map.mp hmem
  have hnone := List.find?_eq_none.mp (Board.find?_eq_none_of_mandate? hmandate) e he
  exact hnone (beq_iff_eq.mpr hid)

theorem newTasks_of_keeps {b b' : Board} (h : b.Keeps b') : newTasks b b' = [] := by
  refine List.eq_nil_iff_forall_not_mem.mpr fun task htask => ?_
  obtain ⟨hnone, hsome⟩ := mandate?_of_newTasks htask
  exact hsome ((h.mandate? task).trans hnone)

theorem newTasks_of_adds {b b' : Board} {id : TaskId} {m : Mandate} (h : b.Adds id m b')
    {task : TaskId} (htask : task ∈ newTasks b b') : task = id := by
  obtain ⟨hnone, hsome⟩ := mandate?_of_newTasks htask
  rw [h.mandate?] at hsome
  split at hsome
  · assumption
  · exact (hsome hnone).elim

/-- What somebody else's wish for a task does. -/
theorem grows_create (r : TaskRequest) {now : Nat} {w : World η}
    (hnew : w.board.find? (w.nextFresh now).task = none) :
    w.board.Grows tasks (advance now (Tasks.create r) [] w).state.board := by
  obtain ⟨result, w', hacts, hdoes⟩ := Tasks.create_cases r hnew
  rw [hacts.advance]
  rcases hdoes with ⟨-, -, -, hkeeps, -⟩ | ⟨hrefusal, -, hadds⟩
  · exact hkeeps.grows
  · exact hadds.grows hnew (Board.refusal?_eq_none hrefusal).1

/-- A call of the task tool by a member. -/
theorem Sound.delegate (h : s.Sound tools engine tasks) (o : Office η) {m : Member η}
    (hmem : m ∈ s.members) (hholds : m.tools.get? TaskTool.name = some (TaskTool.tool tasks))
    (arguments : Object) (id : CallId) {now : Nat}
    (hnew : s.world.board.find? (s.world.nextFresh now).task = none) :
    (s.delegate o m arguments id now).Sound tools engine tasks := by
  unfold Staff.delegate
  generalize hworld : (advance now (m.call o TaskTool.name arguments id) [] s.world).state = world
  -- a call that creates nothing delegates nothing
  have hkept : s.world.board.Keeps world.board →
      Sound tools engine tasks ⟨world, s.members, s.delegations ++
        (newTasks s.world.board world.board).map fun task => (m, task)⟩ := by
    intro hkeeps
    rw [newTasks_of_keeps hkeeps, List.map_nil, List.append_nil]
    exact h.grows hkeeps.grows
  rcases Member.call_cases o hholds arguments id hnew with hleaves | ⟨result, w', hcall, hdoes⟩
  · refine hkept ?_
    rw [← hworld, hleaves.state_eq]
    exact .refl _
  · rw [hcall, Progress.state] at hworld
    subst hworld
    cases hdoes with
    | keeps hkeeps hentries => exact hkept hkeeps
    | adds r hasks hrefusal hsuccess hadds =>
        have hgrows : s.world.board.Grows tasks w'.board :=
          hadds.grows hnew (Board.refusal?_eq_none hrefusal).1
        refine ⟨(h.grows hgrows).limited, (h.grows hgrows).members, fun d hd => ?_⟩
        rcases List.mem_append.mp hd with hd | hd
        · exact (h.grows hgrows).delegations d hd
        · obtain ⟨task, htask, rfl⟩ := List.mem_map.mp hd
          refine ⟨hmem, hholds, r.mandate (s.world.nextFresh now), ?_, hasks.parent, hasks.depth⟩
          rw [hadds.mandate?, if_pos (newTasks_of_adds hadds htask)]

/-- Every step of an office under the settings leaves a sound staff. -/
theorem Sound.step {c : Collaborators η} {prompt : Option String} {s' : Staff η}
    (hstep : Step (Office.ofSettings c prompt engine tasks) tasks s s')
    (h : s.Sound c.tools engine tasks) : s'.Sound c.tools engine tasks := by
  cases hstep with
  | creates r now hnew => exact h.grows (grows_create r hnew)
  | starts id now =>
      obtain ⟨result, w', hacts, hkeeps, -⟩ := Tasks.start_cases id now s.world
      rw [hacts.advance]
      exact h.grows hkeeps.grows
  | cancels id now =>
      obtain ⟨cancelled, w', hacts, hkeeps⟩ := Tasks.cancel_cases id now s.world
      rw [hacts.advance]
      exact h.grows hkeeps.grows
  | shutsDown now =>
      obtain ⟨count, w', hacts, hkeeps⟩ := Tasks.shutdown_cases now s.world
      rw [hacts.advance]
      exact h.grows hkeeps.grows
  | attends session token =>
      exact h.join fun m hm => (List.mem_singleton.mp hm) ▸ .attends rfl rfl rfl
  | delegates arguments id now hmem hholds hnew =>
      exact h.delegate _ hmem hholds arguments id hnew
  | opens id now =>
      have hrecruits : ∀ m ∈ ((Office.ofSettings c prompt engine tasks).recruit id now
          s.world).toList, Fits c.tools engine tasks s.world.board m := by
        intro m hm
        have hrecruit := Office.recruit_cases (o := Office.ofSettings c prompt engine tasks) rfl
          (Option.mem_toList.mp hm)
        obtain ⟨mandate, profile, htask, hmandate, hsession, hdepth, hprofile, htools⟩ := hrecruit
        exact .works htask hmandate hsession hdepth hprofile htools
      exact (h.join hrecruits).grows (Office.keeps_openBody _ id now s.world).grows
  | closes id result now => exact h.grows (Office.keeps_closeBody id result now s.world).grows
  | goesOn world hboard =>
      have hsame : s.world.board.Keeps world.board := hboard ▸ .refl _
      exact h.grows hsame.grows

theorem Runs.sound {c : Collaborators η} {prompt : Option String} {host : η}
    {queue : QueueSettings}
    (hruns : Runs (Office.ofSettings c prompt engine tasks) tasks (opening host queue tasks) s) :
    s.Sound c.tools engine tasks := by
  induction hruns with
  | refl => exact sound_opening host queue
  | tail _ hstep ih => exact ih.step hstep

/-! ## What a member is given -/

/-- The tools of a sub-agent: the given tools that its profile allows, the task tool in place of
one of its name, and that only above the limit. -/
def Equipped (tools : ToolRegistry (Act η)) (tasks : TaskSettings) (profile : AgentProfile)
    (m : Member η) : Prop :=
  ∀ name, m.tools.get? name =
    if name = TaskTool.name then
      if m.seat.depth < tasks.maxDepth ∧ profile.allows TaskTool.name = true then
        some (TaskTool.tool tasks)
      else none
    else if profile.allows name then tools.get? name else none

theorem task_of_mandate {b : Board} {id : TaskId} {mandate : Mandate}
    (h : b.mandate? id = some mandate) : ∃ task, b.get? id = some task ∧ task.mandate = mandate :=
  Option.map_eq_some_iff.mp h

variable {m : Member η}

theorem Sound.top (h : s.Sound tools engine tasks) (hm : m ∈ s.members) (htask : m.task = none) :
    m.seat.depth = 0 ∧ m.tools = topLevelTools tools tasks := by
  cases h.members m hm with
  | attends _ hdepth htools => exact ⟨hdepth, htools⟩
  | works hworks => exact nomatch htask.symm.trans hworks

theorem Sound.equipped (h : s.Sound tools engine tasks) (hm : m ∈ s.members) {id : TaskId}
    (htask : m.task = some id) :
    ∃ task profile, s.world.board.get? id = some task ∧ m.seat.session = task.childSessionId ∧
      m.seat.depth = task.depth ∧ tasks.agents.get? task.agentType = some profile ∧
      Equipped tools tasks profile m := by
  cases h.members m hm with
  | attends hattends => exact nomatch htask.symm.trans hattends
  | @works id' mandate profile hworks hmandate hsession hdepth hprofile htools =>
      obtain rfl : id = id' := Option.some.inj (htask.symm.trans hworks)
      obtain ⟨task, htask, rfl⟩ := task_of_mandate hmandate
      refine ⟨task, profile, htask, hsession, hdepth, hprofile, fun name => ?_⟩
      rw [htools, get?_toolsFor_ofSettings, hdepth]

end Staff

end AgentSessions
