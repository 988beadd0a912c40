import AgentSessions.Engine.Setup
import AgentSessions.Session.Basic
import AgentSessions.Settings.Basic
import AgentSessions.Task.Error
import AgentSessions.Tool.Registry

/-!
# Delegation

A task is run by a sub-agent: an engine in a session of its own, with the tools and the instructions
of a profile. The tools of a sub-agent are those of the top level which its profile allows. The tool
that delegates further is added only above the depth limit, and only if the profile allows it.
-/

set_option autoImplicit false

namespace AgentSessions

/-- How sub-agents are built: the tools of the top level, the tool that delegates, the settings and
the profiles. -/
structure Delegation (m : Type → Type) where
  base : ToolRegistry m
  taskTool : Option (Tool m)
  engine : EngineSettings
  agents : Dict AgentProfile
  maxDepth : UInt32

namespace Delegation

variable {m : Type → Type}

/-- The name under which profiles allow to delegate. -/
def toolName : String := "task"

/-- The agent types there are, sorted. -/
def agentTypes (f : Delegation m) : List String :=
  f.agents.keys

def mayDelegate (f : Delegation m) (profile : AgentProfile) (depth : UInt32) : Bool :=
  decide (depth < f.maxDepth) && profile.allowedTools.all fun allowed => allowed.contains toolName

/-- The tools of the top level that a profile allows, without one that has the name of the tool that
delegates. -/
def allowedBase (f : Delegation m) (profile : AgentProfile) : ToolRegistry m :=
  let tools := match profile.allowedTools with
    | some allowed => ToolRegistry.restrictedTo f.base allowed
    | none => f.base
  Dict.erase tools toolName

def toolsFor (f : Delegation m) (profile : AgentProfile) (depth : UInt32) : ToolRegistry m :=
  let tools := f.allowedBase profile
  match f.taskTool with
  | some tool =>
      if f.mayDelegate profile depth then ToolRegistry.register tools tool else tools
  | none => tools

def settingsFor (f : Delegation m) (profile : AgentProfile) : EngineSettings :=
  match profile.maxSteps with
  | some n => { f.engine with maxSteps := n }
  | none => f.engine

/-- The instructions of a sub-agent; empty ones are none. -/
def promptFor (profile : AgentProfile) : Option String :=
  if profile.systemPrompt.isEmpty then none else some profile.systemPrompt

structure SubAgent (m : Type → Type) where
  tools : ToolRegistry m
  settings : EngineSettings
  systemPrompt : Option String
  depth : UInt32

def build (f : Delegation m) (agentType : String) (depth : UInt32) :
    Except TaskError (SubAgent m) :=
  match f.agents.get? agentType with
  | none => .error (.unknownAgentType agentType)
  | some profile =>
      .ok ⟨f.toolsFor profile depth, f.settingsFor profile, promptFor profile, depth⟩

end Delegation

end AgentSessions
