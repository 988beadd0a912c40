import AgentSessions.Dict
import AgentSessions.Ident
import AgentSessions.Text.Quoted
import AgentSessions.Token
import AgentSessions.Tool.Spec

/-!
# The registry of tools

Tools are known by name. A tool runs in some monad `m`, on arguments and in a context that tells
who calls it. Running never fails: a tool that is not there and one that fails give a failed
outcome.
-/

set_option autoImplicit false

namespace AgentSessions

open Json (Object)

structure ToolContext where
  sessionId : SessionId
  toolCallId : CallId
  /-- How deep the calling engine is nested; zero is the top. -/
  depth : UInt32
  /-- Tripped when the calling run is cancelled. -/
  token : Token
  deriving DecidableEq, Repr

structure Tool (m : Type → Type) where
  name : String
  spec : ToolSpec
  execute : Object → ToolContext → m (Except ToolError ToolOutcome)

abbrev ToolRegistry (m : Type → Type) := Dict (Tool m)

namespace ToolRegistry

variable {m : Type → Type}

/-- Adds a tool, in place of one of the same name. -/
def register (r : ToolRegistry m) (tool : Tool m) : ToolRegistry m :=
  Dict.insert r tool.name tool

def ofTools (tools : List (Tool m)) : ToolRegistry m :=
  tools.foldl register Dict.empty

/-- The descriptions of all tools, sorted by the names in them. -/
def definitions (r : ToolRegistry m) : List ToolSpec :=
  ((Dict.values r).map Tool.spec).mergeSort fun a b => decide (a.name ≤ b.name)

def restrictedTo (r : ToolRegistry m) (allowed : List String) : ToolRegistry m :=
  Dict.filterKeys r fun name => allowed.contains name

/-- The outcome of a call of a tool that is not there. -/
def notFound (name : String) : ToolOutcome :=
  .failure ("Tool not found: " ++ name)

/-- What the engine makes of the result of a tool. -/
def settle : Except ToolError ToolOutcome → ToolOutcome
  | .ok outcome => outcome
  | .error e => .failure e.message

def execute [Monad m] (r : ToolRegistry m) (name : String) (arguments : Object)
    (context : ToolContext) : m ToolOutcome :=
  match Dict.get? r name with
  | none => pure (notFound name)
  | some tool => settle <$> tool.execute arguments context

/-- The registry as it is shown to a person: the names in order. -/
def text (r : ToolRegistry m) : String :=
  "ToolRegistry \x7b tools: [" ++ ", ".intercalate ((Dict.keys r).map Text.quoted) ++ "] \x7d"

end ToolRegistry

end AgentSessions
