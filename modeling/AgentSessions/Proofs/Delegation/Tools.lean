import AgentSessions.Orchestration.Opening
import AgentSessions.Proofs.Dict
import Mathlib.Logic.Basic

/-!
# Who has which tools

What a look-up finds among the tools of the top level (`get?_topLevelTools`) and among those of a
sub-agent (`get?_toolsFor_ofSettings`). Both have the tools that the office was given, a sub-agent
as far as its profile allows them; the name of the task tool stands for the task tool alone, as soon
as there is a depth to delegate to.
-/

set_option autoImplicit false

namespace AgentSessions

/-- Whether a profile allows a tool: it names the tool, or it names none at all. -/
def AgentProfile.allows (p : AgentProfile) (name : String) : Bool :=
  p.allowedTools.all fun allowed => allowed.contains name

theorem AgentProfile.allows_of_none {p : AgentProfile} (h : p.allowedTools = none)
    (name : String) : p.allows name = true := by
  rw [allows, h, Option.all_none]

theorem AgentProfile.allows_of_some {p : AgentProfile} {allowed : List String}
    (h : p.allowedTools = some allowed) (name : String) :
    p.allows name = allowed.contains name := by
  rw [allows, h, Option.all_some]

namespace Delegation

variable {m : Type → Type}

theorem mayDelegate_iff {f : Delegation m} {profile : AgentProfile} {depth : UInt32} :
    f.mayDelegate profile depth = true ↔
      depth < f.maxDepth ∧ profile.allows toolName = true := by
  rw [mayDelegate, Bool.and_eq_true, decide_eq_true_iff, AgentProfile.allows]

theorem get?_allowedBase (f : Delegation m) (profile : AgentProfile) (name : String) :
    (f.allowedBase profile).get? name =
      if name = toolName then none
      else if profile.allows name then f.base.get? name else none := by
  unfold allowedBase
  rw [Dict.get?_erase]
  cases hallowed : profile.allowedTools with
  | none => rw [profile.allows_of_none hallowed, if_pos rfl]
  | some allowed =>
      rw [profile.allows_of_some hallowed]
      dsimp only
      rw [ToolRegistry.restrictedTo, Dict.get?_filterKeys]

theorem get?_toolsFor {f : Delegation m} {tool : Tool m} (htool : f.taskTool = some tool)
    (htoolName : tool.name = toolName) (profile : AgentProfile) (depth : UInt32) (name : String) :
    (f.toolsFor profile depth).get? name =
      if name = toolName then if f.mayDelegate profile depth then some tool else none
      else if profile.allows name then f.base.get? name else none := by
  unfold toolsFor
  rw [htool]
  dsimp only
  cases f.mayDelegate profile depth with
  | false =>
      rw [if_neg Bool.false_ne_true, if_neg Bool.false_ne_true]
      exact f.get?_allowedBase profile name
  | true =>
      rw [if_pos rfl, if_pos rfl, ToolRegistry.register, Dict.get?_insert, htoolName,
        get?_allowedBase]
      by_cases hname : name = toolName
      · rw [if_pos hname, if_pos hname]
      · rw [if_neg hname, if_neg hname, if_neg hname]

end Delegation

variable {η : Type}

/-- The tools of a sub-agent: under the name of the task tool there is only the task tool, if the
profile allows it and there is a depth left; the other tools are those that were given and that the
profile allows. -/
theorem get?_toolsFor_ofSettings (tools : ToolRegistry (Act η)) (engine : EngineSettings)
    (tasks : TaskSettings) (profile : AgentProfile) (depth : UInt32) (name : String) :
    ((Delegation.ofSettings tools engine tasks).toolsFor profile depth).get? name =
      if name = TaskTool.name then
        if depth < tasks.maxDepth ∧ profile.allows TaskTool.name = true then
          some (TaskTool.tool tasks)
        else none
      else if profile.allows name then tools.get? name else none := by
  have hmay : (Delegation.ofSettings tools engine tasks).mayDelegate profile depth = true ↔
      depth < tasks.maxDepth ∧ profile.allows TaskTool.name = true := Delegation.mayDelegate_iff
  have hfound := Delegation.get?_toolsFor (f := Delegation.ofSettings tools engine tasks) rfl rfl
    profile depth name
  rw [if_congr hmay rfl rfl] at hfound
  exact hfound

/-- The tools of the top level: those that were given, and the task tool if there is a depth to
delegate to. -/
theorem get?_topLevelTools (tools : ToolRegistry (Act η)) (tasks : TaskSettings)
    (name : String) :
    (topLevelTools tools tasks).get? name =
      if name = TaskTool.name ∧ 0 < tasks.maxDepth then some (TaskTool.tool tasks)
      else tools.get? name := by
  unfold topLevelTools
  by_cases hdepth : 0 < tasks.maxDepth
  · rw [if_pos hdepth, ToolRegistry.register, Dict.get?_insert]
    exact if_congr (iff_self_and.mpr fun _ => hdepth) rfl rfl
  · rw [if_neg hdepth, if_neg fun h => hdepth h.2]

end AgentSessions
