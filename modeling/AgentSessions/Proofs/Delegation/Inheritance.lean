import AgentSessions.Proofs.Delegation.Depth

/-!
# What is inherited in a delegation

The tools of a sub-agent are those of its profile among the tools of the top level; who delegated to
it plays no part. So it never has a tool that the top level has not, but it is held to the tools of
the engine that delegated only as far as their profiles say so: it stays within them exactly when
its profile allows no given tool that the other profile forbids (`tools_follow_profiles`). An agent
that may do little more than delegate gains the tools it lacks by delegating to an agent without
restrictions (`delegation_gains_tool`).
-/

set_option autoImplicit false

namespace AgentSessions

variable {η : Type} {tools : ToolRegistry (Act η)} {engine : EngineSettings} {tasks : TaskSettings}

/-- Every tool of the one registry is in the other one. -/
def ToolRegistry.Within (r r' : ToolRegistry (Act η)) : Prop :=
  ∀ name tool, r.get? name = some tool → r'.get? name = some tool

namespace Staff

/-- The profile of the task that an engine works on. -/
def profile? (s : Staff η) (tasks : TaskSettings) (m : Member η) : Option AgentProfile := do
  let id ← m.task
  let task ← s.world.board.get? id
  tasks.agents.get? task.agentType

theorem Sound.profile {s : Staff η} (h : s.Sound tools engine tasks) {m : Member η}
    (hm : m ∈ s.members) (htask : m.task ≠ none) :
    ∃ profile, s.profile? tasks m = some profile ∧ Equipped tools tasks profile m := by
  obtain ⟨id, hid⟩ := Option.ne_none_iff_exists'.mp htask
  obtain ⟨task, profile, hget, -, -, hprofile, hequipped⟩ := h.equipped hm hid
  refine ⟨profile, ?_, hequipped⟩
  rw [profile?, hid, Option.bind_eq_bind, Option.bind_some, hget, Option.bind_eq_bind,
    Option.bind_some, hprofile]

/-- A sub-agent has no tool that the top level has not. -/
theorem Equipped.within_top {profile : AgentProfile} {m : Member η}
    (h : Equipped tools tasks profile m) : m.tools.Within (topLevelTools tools tasks) := by
  intro name tool hfound
  rw [h name] at hfound
  rw [get?_topLevelTools]
  by_cases hname : name = TaskTool.name
  · rw [if_pos hname] at hfound
    split at hfound
    · rename_i hmay
      have hpositive : 0 < tasks.maxDepth :=
        UInt32.lt_of_le_of_lt (UInt32.le_iff_toNat_le.mpr (Nat.zero_le _)) hmay.1
      rw [if_pos ⟨hname, hpositive⟩]
      exact hfound
    · cases hfound
  · rw [if_neg hname] at hfound
    rw [if_neg fun both => hname both.1]
    split at hfound
    · exact hfound
    · cases hfound

/-- A sub-agent stays within the tools of another one that has the task tool exactly when its
profile allows no given tool that the profile of the other one forbids. -/
theorem Equipped.within_iff {p q : AgentProfile} {m m' : Member η}
    (h' : Equipped tools tasks p m') (h : Equipped tools tasks q m)
    (hholds : m.tools.get? TaskTool.name = some (TaskTool.tool tasks)) :
    m'.tools.Within m.tools ↔ ∀ name, name ≠ TaskTool.name → (tools.get? name).isSome = true →
      p.allows name = true → q.allows name = true := by
  constructor
  · intro hwithin name hname hgiven hallows
    obtain ⟨tool, htool⟩ := Option.isSome_iff_exists.mp hgiven
    have hfound : m'.tools.get? name = some tool := by
      rw [h' name, if_neg hname, if_pos hallows, htool]
    have hother := hwithin name tool hfound
    rw [h name, if_neg hname] at hother
    split at hother
    · assumption
    · cases hother
  · intro hprofiles name tool hfound
    rw [h' name] at hfound
    by_cases hname : name = TaskTool.name
    · rw [if_pos hname] at hfound
      split at hfound
      · rw [hname, hholds, hfound]
      · cases hfound
    · rw [if_neg hname] at hfound
      split at hfound
      · rename_i hallows
        have hgiven : (tools.get? name).isSome = true := by
          rw [hfound, Option.isSome_some]
        rw [h name, if_neg hname, if_pos (hprofiles name hname hgiven hallows), hfound]
      · cases hfound

/-- Whatever an office under the settings does: no engine has a tool that the top level has not, and
a sub-agent stays within the tools of the engine that delegated to it exactly as far as the two
profiles make it. -/
theorem tools_follow_profiles {c : Collaborators η} {prompt : Option String} {host : η}
    {queue : QueueSettings} {s : Staff η}
    (hruns : Runs (Office.ofSettings c prompt engine tasks) tasks (opening host queue tasks) s) :
    (∀ m ∈ s.members, m.tools.Within (topLevelTools c.tools tasks)) ∧
      ∀ d ∈ s.delegations, ∀ m ∈ s.members, m.task = some d.2 →
        (d.1.task = none → m.tools.Within d.1.tools) ∧
        (d.1.task ≠ none → ∃ p q, s.profile? tasks m = some p ∧ s.profile? tasks d.1 = some q ∧
          (m.tools.Within d.1.tools ↔ ∀ name, name ≠ TaskTool.name →
            (c.tools.get? name).isSome = true → p.allows name = true → q.allows name = true)) := by
  have hsound := hruns.sound
  have hwithin : ∀ m ∈ s.members, m.tools.Within (topLevelTools c.tools tasks) := by
    intro m hm name tool hfound
    by_cases htask : m.task = none
    · rw [← (hsound.top hm htask).2, hfound]
    · obtain ⟨profile, -, hequipped⟩ := hsound.profile hm htask
      exact hequipped.within_top name tool hfound
  refine ⟨hwithin, fun d hd m hm htask => ⟨fun hd' => ?_, fun hd' => ?_⟩⟩
  · rw [(hsound.top (hsound.delegations d hd).1 hd').2]
    exact hwithin m hm
  · have hworks : m.task ≠ none := fun hnone => nomatch htask.symm.trans hnone
    obtain ⟨p, hp, hequipped⟩ := hsound.profile hm hworks
    obtain ⟨q, hq, hequipped'⟩ := hsound.profile (hsound.delegations d hd).1 hd'
    exact ⟨p, q, hp, hq, hequipped.within_iff hequipped' (hsound.delegations d hd).2.holds⟩

/-- In the small office the last engine does not stay within the tools of the one that delegated to
it. -/
theorem tools_follow_profiles_chain :
    Chain.general ∈ Chain.last.members ∧ Chain.general.task = some (Chain.task 2) ∧
      ∃ p q, Chain.last.profile? Chain.settings Chain.general = some p ∧
        Chain.last.profile? Chain.settings Chain.limited = some q ∧
        (Chain.general.tools.Within Chain.limited.tools ↔ ∀ name, name ≠ TaskTool.name →
          (Chain.crew.tools.get? name).isSome = true → p.allows name = true →
            q.allows name = true) := by
  have hmem : Chain.general ∈ Chain.last.members := List.get_mem _ _
  have htask : Chain.general.task = some (Chain.task 2) := by decide +kernel
  have hdelegated : (Chain.limited, Chain.task 2) ∈ Chain.last.delegations :=
    List.mem_append_right _ (List.mem_map_of_mem (by decide +kernel))
  have hfollows := (tools_follow_profiles Chain.runs).2 _ hdelegated _ hmem htask
  exact ⟨hmem, htask, hfollows.2 (by decide +kernel)⟩

/-- An agent that may do nothing but delegate delegates to one without restrictions, which has a
tool that it has not. -/
theorem delegation_gains_tool :
    Runs Chain.office Chain.settings (opening () default Chain.settings) Chain.last ∧
      (Chain.limited, Chain.task 2) ∈ Chain.last.delegations ∧
      Chain.general ∈ Chain.last.members ∧ Chain.general.task = some (Chain.task 2) ∧
      (Chain.last.profile? Chain.settings Chain.general).map AgentProfile.allowedTools =
        some none ∧
      Chain.general.tools.contains "read" = true ∧ Chain.limited.tools.contains "read" = false := by
  refine ⟨Chain.runs, ?_, List.get_mem _ _, ?_, ?_, ?_, ?_⟩
  · exact List.mem_append_right _ (List.mem_map_of_mem (by decide +kernel))
  all_goals decide +kernel

end Staff

end AgentSessions
