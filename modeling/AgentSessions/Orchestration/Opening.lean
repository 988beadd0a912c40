import AgentSessions.Orchestration.Office
import AgentSessions.Task.Tool

/-!
# Opening an office

An office and the world in which it begins, from the settings. Sub-agents have the tools of the top
level and the task tool as far as their profiles and the depth limit go. The top level has the task
tool whenever tasks can be delegated at all.
-/

set_option autoImplicit false

namespace AgentSessions

variable {η : Type}

/-- How sub-agents are built under the settings. -/
def Delegation.ofSettings (tools : ToolRegistry (Act η)) (engine : EngineSettings)
    (tasks : TaskSettings) : Delegation (Act η) where
  base := tools
  taskTool := some (TaskTool.tool tasks)
  engine := engine
  agents := tasks.agents
  maxDepth := tasks.maxDepth

/-- The tools of the top level: those that are given, and the task tool unless the depth limit is
zero. -/
def topLevelTools (tools : ToolRegistry (Act η)) (tasks : TaskSettings) : ToolRegistry (Act η) :=
  if 0 < tasks.maxDepth then ToolRegistry.register tools (TaskTool.tool tasks) else tools

namespace Office

def ofSettings (c : Collaborators η) (systemPrompt : Option String) (engine : EngineSettings)
    (tasks : TaskSettings) : Office η where
  collaborators := { c with tools := topLevelTools c.tools tasks }
  engine := engine
  systemPrompt := systemPrompt
  build := (Delegation.ofSettings c.tools engine tasks).build

def opening (host : η) (queue : QueueSettings) (tasks : TaskSettings) : World η :=
  .new host (.empty (queue.maxBacklog.map UInt64.toNat))
    (.empty tasks.maxConcurrent.toNat tasks.maxDepth tasks.agents.keys)

end Office

end AgentSessions
