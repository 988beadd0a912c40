import AgentSessions.Proofs.Delegation.Origins

/-!
# How deep delegation goes

Two checks keep delegation within its limit: an engine at the limit gets no task tool, and a request
beyond the limit is refused. An engine that holds the task tool therefore stands above the limit, or
at the top, so its depth plus one is still a depth (`Fits.deeper`). The tools of every engine, the
depths of everything that was delegated and what a refusal leaves follow from where engines come
from.
-/

set_option autoImplicit false

namespace AgentSessions

open Json (Object)
open Simulation (advance)

variable {η : Type} {tools : ToolRegistry (Act η)} {engine : EngineSettings} {tasks : TaskSettings}

namespace Staff

theorem Fits.depth_le {b : Board} {m : Member η} (h : Fits tools engine tasks b m)
    (hb : b.Limited tasks) : m.seat.depth ≤ tasks.maxDepth := by
  cases h with
  | attends htask hdepth htools =>
      rw [hdepth]
      exact UInt32.le_iff_toNat_le.mpr (Nat.zero_le _)
  | works htask hmandate hsession hdepth hprofile htools =>
      rw [hdepth]
      exact hb.mandate hmandate

/-- One level below an engine that has the task tool is still a depth. -/
theorem Fits.deeper {b : Board} {m : Member η} (h : Fits tools engine tasks b m)
    (hholds : m.tools.get? TaskTool.name = some (TaskTool.tool tasks)) :
    (m.seat.depth + 1).toNat = m.seat.depth.toNat + 1 := by
  cases h with
  | attends htask hdepth htools =>
      rw [hdepth]
      rfl
  | @works id mandate profile htask hmandate hsession hdepth hprofile htools =>
      rw [htools, get?_toolsFor_ofSettings, if_pos rfl] at hholds
      have habove : mandate.depth < tasks.maxDepth := by
        by_cases hmay : mandate.depth < tasks.maxDepth ∧ profile.allows TaskTool.name = true
        · exact hmay.1
        · rw [if_neg hmay] at hholds
          cases hholds
      have hlimit := UInt32.toNat_lt tasks.maxDepth
      rw [UInt32.lt_iff_toNat_lt] at habove
      rw [hdepth, UInt32.toNat_add, UInt32.toNat_one]
      omega

/-- Delegation keeps to its limit. -/
structure Bounded (tools : ToolRegistry (Act η)) (o : Office η) (tasks : TaskSettings)
    (s : Staff η) : Prop where
  /-- No engine is deeper than the limit. -/
  depth : ∀ m ∈ s.members, m.seat.depth ≤ tasks.maxDepth
  /-- An engine that works on no task is at the top. -/
  top : ∀ m ∈ s.members, m.task = none → m.seat.depth = 0
  /-- One that works on a task is in its session, at its depth, and has the tools of its profile. -/
  equipped : ∀ m ∈ s.members, ∀ id, m.task = some id →
    ∃ task profile, s.world.board.get? id = some task ∧ m.seat.session = task.childSessionId ∧
      m.seat.depth = task.depth ∧ tasks.agents.get? task.agentType = some profile ∧
      Equipped tools tasks profile m
  /-- A task that an engine has delegated is one level deeper, and within the limit. -/
  delegated : ∀ d ∈ s.delegations, d.1 ∈ s.members ∧
    ∃ task, s.world.board.get? d.2 = some task ∧ task.parentSessionId = some d.1.seat.session ∧
      task.depth.toNat = d.1.seat.depth.toNat + 1 ∧ task.depth ≤ tasks.maxDepth
  /-- Whatever an engine asks the task tool for, the depth that is asked for is no overflow. -/
  deeper : ∀ m ∈ s.members, m.tools.get? TaskTool.name = some (TaskTool.tool tasks) →
    m.seat.depth.toNat + 1 < UInt32.size
  /-- A request that is refused adds no task. -/
  refused : ∀ r now, s.world.board.find? (s.world.nextFresh now).task = none → ∀ e w',
    advance now (Tasks.create r) [] s.world = .finished (.error e) w' →
      w'.board.entries = s.world.board.entries
  /-- A call of the task tool that does not succeed adds no task. -/
  failed : ∀ m ∈ s.members, m.tools.get? TaskTool.name = some (TaskTool.tool tasks) →
    ∀ arguments id now, s.world.board.find? (s.world.nextFresh now).task = none → ∀ outcome w',
      advance now (m.call o TaskTool.name arguments id) [] s.world = .finished outcome w' →
      (∀ result, outcome = some result → result.success = false) →
        w'.board.entries = s.world.board.entries
  /-- A call of the task tool that has to wait changes nothing, now or whenever it is woken. -/
  waiting : ∀ m ∈ s.members, m.tools.get? TaskTool.name = some (TaskTool.tool tasks) →
    ∀ arguments id now, s.world.board.find? (s.world.nextFresh now).task = none → ∀ t w',
      advance now (m.call o TaskTool.name arguments id) [] s.world = .suspended t w' →
        w' = s.world ∧ ∀ fuel now' w, (t.poll fuel now' w).Leaves w

theorem refused_adds_nothing {w : World η} (r : TaskRequest) {now : Nat}
    (hnew : w.board.find? (w.nextFresh now).task = none) {e : TaskError} {w' : World η}
    (h : advance now (Tasks.create r) [] w = .finished (.error e) w') :
    w'.board.entries = w.board.entries := by
  obtain ⟨result, w'', hacts, hdoes⟩ := Tasks.create_cases r hnew
  rw [hacts.advance] at h
  cases h
  rcases hdoes with ⟨-, -, -, -, hentries⟩ | ⟨-, ⟨t, ht⟩, -⟩
  · exact hentries
  · cases ht

theorem failed_adds_nothing (o : Office η) {m : Member η} {w w' : World η}
    (hholds : m.tools.get? TaskTool.name = some (TaskTool.tool tasks)) {arguments : Object}
    {id : CallId} {now : Nat} (hnew : w.board.find? (w.nextFresh now).task = none)
    {outcome : Option ToolOutcome}
    (h : advance now (m.call o TaskTool.name arguments id) [] w = .finished outcome w')
    (hfails : ∀ result, outcome = some result → result.success = false) :
    w'.board.entries = w.board.entries := by
  rcases Member.call_cases o hholds arguments id hnew with hleaves | ⟨result, w'', hcall, hdoes⟩
  · rw [h] at hleaves
    rw [show w' = w from hleaves]
  · rw [hcall] at h
    cases h
    cases hdoes with
    | keeps hkeeps hentries => exact hentries (hfails _ rfl)
    | adds r hasks hrefusal hsuccess hadds =>
        rw [hfails _ rfl] at hsuccess
        cases hsuccess

theorem waiting_changes_nothing (o : Office η) {m : Member η} {w w' : World η}
    (hholds : m.tools.get? TaskTool.name = some (TaskTool.tool tasks)) {arguments : Object}
    {id : CallId} {now : Nat} (hnew : w.board.find? (w.nextFresh now).task = none)
    {t : Simulation.Thread (World η) (Option ToolOutcome)}
    (h : advance now (m.call o TaskTool.name arguments id) [] w = .suspended t w') :
    w' = w ∧ ∀ fuel now' w, (t.poll fuel now' w).Leaves w := by
  rcases Member.call_cases o hholds arguments id hnew with hleaves | ⟨result, w'', hcall, -⟩
  · rw [h] at hleaves
    obtain ⟨hlooks, hworld⟩ := hleaves
    exact ⟨hworld, hlooks.poll⟩
  · rw [hcall] at h
    cases h

/-- Whatever an office under the settings does, and in whatever order, delegation keeps to its
limit. -/
theorem delegation_bounded {c : Collaborators η} {prompt : Option String} {host : η}
    {queue : QueueSettings} {s : Staff η}
    (hruns : Runs (Office.ofSettings c prompt engine tasks) tasks (opening host queue tasks) s) :
    s.Bounded c.tools (Office.ofSettings c prompt engine tasks) tasks := by
  have hsound := hruns.sound
  refine ⟨fun m hm => (hsound.members m hm).depth_le hsound.limited,
    fun m hm htask => (hsound.top hm htask).1, fun m hm id htask => hsound.equipped hm htask,
    fun d hd => ?_, fun m hm hholds => ?_,
    fun r now hnew e w' h => refused_adds_nothing r hnew h,
    fun m hm hholds arguments id now hnew outcome w' h => failed_adds_nothing _ hholds hnew h,
    fun m hm hholds arguments id now hnew t w' h => waiting_changes_nothing _ hholds hnew h⟩
  · obtain ⟨hmem, hholds, mandate, hmandate, hparent, hdepth⟩ := hsound.delegations d hd
    obtain ⟨task, htask, rfl⟩ := task_of_mandate hmandate
    refine ⟨hmem, task, htask, hparent, ?_, hsound.limited.mandate hmandate⟩
    rw [← (hsound.members d.1 hmem).deeper hholds]
    exact congrArg UInt32.toNat hdepth
  · have hdeeper := (hsound.members m hm).deeper hholds
    rw [← hdeeper]
    exact UInt32.toNat_lt_size _

/-- In the small office three engines are at work, and each delegation went one level deeper. -/
theorem delegation_bounded_chain :
    (Chain.last.members.map fun m => m.seat.depth) = [0, 1, 2] ∧
      (Chain.last.delegations.map fun d => d.2) = [Chain.task 0, Chain.task 2] ∧
      Chain.last.Bounded Chain.crew.tools Chain.office Chain.settings :=
  ⟨by decide +kernel, by decide +kernel, delegation_bounded Chain.runs⟩

end Staff

end AgentSessions
