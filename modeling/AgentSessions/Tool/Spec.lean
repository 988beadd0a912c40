import AgentSessions.Json.Decode

/-!
# Tools as a model sees them

The description of a tool, the result of running it, and the ways in which running it can fail.
-/

set_option autoImplicit false

namespace AgentSessions

open Json (Decoder Record Value)

/-- What a model is told of a tool. -/
structure ToolSpec where
  name : String
  description : String
  /-- A JSON schema of the arguments. -/
  parameters : Value
  deriving DecidableEq

namespace ToolSpec

def encode (s : ToolSpec) : Value :=
  Value.record
    [Value.field "name" (.string s.name), Value.field "description" (.string s.description),
      Value.field "parameters" s.parameters]

def decoder : Decoder ToolSpec := Record.decoder <|
  mk <$> Record.field "name" Decoder.string
    <*> Record.field "description" Decoder.string
    <*> Record.field "parameters" Decoder.any

end ToolSpec

structure ToolOutcome where
  success : Bool
  content : String
  error : Option String
  deriving DecidableEq, Inhabited

namespace ToolOutcome

def ok (content : String) : ToolOutcome :=
  ⟨true, content, none⟩

/-- A failure, with its message as the content. -/
def failure (message : String) : ToolOutcome :=
  ⟨false, message, some message⟩

def encode (o : ToolOutcome) : Value :=
  Value.record
    [Value.field "success" (.bool o.success), Value.field "content" (.string o.content),
      Value.optional "error" Value.string o.error]

def decoder : Decoder ToolOutcome := Record.decoder <|
  mk <$> Record.field "success" Decoder.bool
    <*> Record.field "content" Decoder.string
    <*> Record.optional "error" Decoder.string

end ToolOutcome

inductive ToolError where
  | invalidArguments (tool message : String)
  | execution (tool message : String)
  | cancelled (tool : String)
  deriving DecidableEq, Repr

def ToolError.message : ToolError → String
  | invalidArguments tool message => tool ++ ": invalid arguments: " ++ message
  | execution tool message => tool ++ ": " ++ message
  | cancelled tool => tool ++ ": cancelled"

end AgentSessions
