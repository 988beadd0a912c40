import AgentSessions.Ident
import AgentSessions.Instant
import AgentSessions.Json.Writer

/-!
# Turns

A history is a list of turns. An assistant turn may call tools; each call is answered by a tool
turn that names the call. A summary is a system turn that stands for the turns it replaced.
-/

set_option autoImplicit false

namespace AgentSessions

open Json (Decoder Record Value Object)

inductive Role where
  | user
  | assistant
  | tool
  | system
  deriving DecidableEq, Repr, Inhabited

namespace Role

def name : Role → String
  | user => "user"
  | assistant => "assistant"
  | tool => "tool"
  | system => "system"

def names : List (String × Role) :=
  [user, assistant, tool, system].map fun r => (r.name, r)

def encode (r : Role) : Value := .string r.name

def decoder : Decoder Role := Decoder.oneOf names

end Role

/-- A tool that the model wants to be called. -/
structure ToolCall where
  id : CallId
  name : String
  arguments : Object
  deriving DecidableEq

namespace ToolCall

/-- A call with a fresh identifier; arguments that are no object count as none. -/
def ofValue (id : CallId) (name : String) (arguments : Value) : ToolCall :=
  ⟨id, name, Object.ofValue arguments⟩

def encode (c : ToolCall) : Value :=
  Value.record
    [Value.field "id" c.id.encode, Value.field "name" (.string c.name),
      Value.field "arguments" c.arguments.toValue]

/-- Decodes a call; missing arguments are none. -/
def decoder : Decoder ToolCall := Record.decoder <|
  mk <$> Record.field "id" CallId.decoder
    <*> Record.field "name" Decoder.string
    <*> Record.withDefault "arguments" Decoder.object Object.empty

end ToolCall

structure Turn where
  role : Role
  content : String
  /-- The tools that an assistant turn calls. -/
  toolCalls : List ToolCall
  /-- The call that a tool turn answers. -/
  toolCallId : Option CallId
  isError : Bool
  summary : Bool
  timestamp : Instant
  deriving DecidableEq

namespace Turn

/-- A turn with nothing but text. -/
def plain (role : Role) (content : String) (now : Instant) : Turn :=
  ⟨role, content, [], none, false, false, now⟩

def user (content : String) (now : Instant) : Turn :=
  plain .user content now

def assistant (content : String) (now : Instant) : Turn :=
  plain .assistant content now

/-- A message of the program itself. -/
def system (content : String) (now : Instant) : Turn :=
  plain .system content now

def calling (content : String) (calls : List ToolCall) (now : Instant) : Turn :=
  { assistant content now with toolCalls := calls }

def toolResult (call : CallId) (content : String) (isError : Bool) (now : Instant) : Turn :=
  { plain .tool content now with toolCallId := some call, isError := isError }

/-- The text that stands for the turns it replaced. -/
def summarizing (content : String) (now : Instant) : Turn :=
  { system content now with summary := true }

def isToolResult (t : Turn) : Bool :=
  t.role == .tool

def hasToolCalls (t : Turn) : Bool :=
  !t.toolCalls.isEmpty

/-- The turn as a JSON value; empty and false fields are left out. -/
def encode (t : Turn) : Value :=
  Value.record
    [Value.field "role" t.role.encode, Value.field "content" (.string t.content),
      Value.fieldIf t.hasToolCalls "toolCalls" (.array (t.toolCalls.map ToolCall.encode)),
      Value.optional "toolCallId" CallId.encode t.toolCallId,
      Value.fieldIf t.isError "isError" (.bool t.isError),
      Value.fieldIf t.summary "summary" (.bool t.summary),
      Value.field "timestamp" t.timestamp.encode]

def decoder : Decoder Turn := Record.decoder <|
  mk <$> Record.field "role" Role.decoder
    <*> Record.field "content" Decoder.string
    <*> Record.withDefault "toolCalls" (Decoder.list ToolCall.decoder) []
    <*> Record.withDefault "toolCallId" (Decoder.nullable CallId.decoder) none
    <*> Record.withDefault "isError" Decoder.bool false
    <*> Record.withDefault "summary" Decoder.bool false
    <*> Record.field "timestamp" Instant.decoder

end Turn

end AgentSessions
