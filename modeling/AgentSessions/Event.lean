import AgentSessions.History.CallRecord

/-!
# Events

What happens in a session is reported as events: a session, a time and one of ten bodies. An event
is written as one flat object, with the name of its kind under `type` beside the session, the time
and the fields of its body. That name is spelled twice: what is written and read is derived from the
names of the variants (`EventBody.tag`), and what an event says of itself is a list of its own
(`EventBody.kind`).
-/

set_option autoImplicit false

namespace AgentSessions

open Json (Cause Decoder Key Node Record Value)

inductive EventBody where
  | runStart
  | stepStart (step : UInt32)
  | toolStart (toolCallId toolName : String)
  | toolEnd (toolCallId toolName : String) (outcome : CallOutcome)
  | quotaExceeded (toolName : String) (limit : UInt32)
  | compactionComplete (tokensBefore tokensAfter : UInt64) (truncated : Bool)
  | runEnd (steps : UInt32) (stopReason : String)
  | runFailed (error category : String)
  | messageQueued (messageId : String) (queued : UInt64)
  | taskStateChanged (taskId state : String)
  deriving DecidableEq, Repr

/-- What happened, in which session and when. -/
structure Event where
  sessionId : String
  timestamp : String
  body : EventBody
  deriving DecidableEq, Repr

/-- A name in camel case, of letters of ASCII, spelled in snake case: its capitals become small
ones, behind an underscore unless they lead. -/
def snakeCase (name : String) : String :=
  .ofList <| match name.toList with
    | [] => []
    | first :: rest => first.toLower :: rest.flatMap fun c =>
        if c.isUpper then ['_', c.toLower] else [c.toLower]

namespace EventBody

def variant : EventBody → String
  | runStart => "RunStart"
  | stepStart .. => "StepStart"
  | toolStart .. => "ToolStart"
  | toolEnd .. => "ToolEnd"
  | quotaExceeded .. => "QuotaExceeded"
  | compactionComplete .. => "CompactionComplete"
  | runEnd .. => "RunEnd"
  | runFailed .. => "RunFailed"
  | messageQueued .. => "MessageQueued"
  | taskStateChanged .. => "TaskStateChanged"

/-- The name under which a body is written. -/
def tag (b : EventBody) : String :=
  snakeCase b.variant

def kind : EventBody → String
  | runStart => "run_start"
  | stepStart .. => "step_start"
  | toolStart .. => "tool_start"
  | toolEnd .. => "tool_end"
  | quotaExceeded .. => "quota_exceeded"
  | compactionComplete .. => "compaction_complete"
  | runEnd .. => "run_end"
  | runFailed .. => "run_failed"
  | messageQueued .. => "message_queued"
  | taskStateChanged .. => "task_state_changed"

def fields : EventBody → List (String × Value)
  | runStart => []
  | stepStart step => [("step", .nat step.toNat)]
  | toolStart call tool => [("toolCallId", .string call), ("toolName", .string tool)]
  | toolEnd call tool outcome =>
      [("toolCallId", .string call), ("toolName", .string tool), ("outcome", outcome.encode)]
  | quotaExceeded tool limit => [("toolName", .string tool), ("limit", .nat limit.toNat)]
  | compactionComplete before after truncated =>
      [("tokensBefore", .nat before.toNat), ("tokensAfter", .nat after.toNat),
        ("truncated", .bool truncated)]
  | runEnd steps reason => [("steps", .nat steps.toNat), ("stopReason", .string reason)]
  | runFailed error category => [("error", .string error), ("category", .string category)]
  | messageQueued message queued =>
      [("messageId", .string message), ("queued", .nat queued.toNat)]
  | taskStateChanged task state => [("taskId", .string task), ("state", .string state)]

/-- Decodes the outcome of a call within an event, where an object without members says as little
of it as `null` does. -/
def outcomeDecoder : Decoder CallOutcome :=
  Decoder.oneOfWith Decoder.Blank.nullOrEmpty CallOutcome.names

/-- The bodies by the name under which they are written. -/
def records : List (String × Record EventBody) :=
  let text (name : String) := Record.field name Decoder.string
  let variants : List (String × Record EventBody) :=
    [ ("RunStart", pure runStart),
      ("StepStart", stepStart <$> Record.field "step" Decoder.uint32),
      ("ToolStart", toolStart <$> text "toolCallId" <*> text "toolName"),
      ("ToolEnd", toolEnd <$> text "toolCallId" <*> text "toolName"
        <*> Record.field "outcome" outcomeDecoder),
      ("QuotaExceeded", quotaExceeded <$> text "toolName" <*> Record.field "limit" Decoder.uint32),
      ("CompactionComplete", compactionComplete <$> Record.field "tokensBefore" Decoder.uint64
        <*> Record.field "tokensAfter" Decoder.uint64 <*> Record.field "truncated" Decoder.bool),
      ("RunEnd", runEnd <$> Record.field "steps" Decoder.uint32 <*> text "stopReason"),
      ("RunFailed", runFailed <$> text "error" <*> text "category"),
      ("MessageQueued", messageQueued <$> text "messageId"
        <*> Record.field "queued" Decoder.uint64),
      ("TaskStateChanged", taskStateChanged <$> text "taskId" <*> text "state") ]
  variants.map fun v => (snakeCase v.1, v.2)

end EventBody

namespace Event

def kind (e : Event) : String :=
  e.body.kind

/-- What is written of an event: the name of its kind, the session, the time and the fields of its
body. -/
def members (e : Event) : List (String × Value) :=
  ("type", .string e.body.tag) :: ("sessionId", .string e.sessionId)
    :: ("timestamp", .string e.timestamp) :: e.body.fields

/-- The event as one flat object. -/
def encode (e : Event) : Value :=
  .object e.members

def record (body : Record EventBody) : Record Event :=
  mk <$> Record.field "sessionId" Decoder.string
    <*> Record.field "timestamp" Decoder.string
    <*> body

def kindDecoder : Decoder (Record EventBody) := fun levels node => do
  let name ← Decoder.string levels node
  Decoder.variant EventBody.records name

/-- Reads the members in turn: the kind where it stands, every other member as free JSON. The kind
has to stand there once. -/
def readMembers (levels : Option Nat) :
    List (Key × Node) → Option (Record EventBody) →
      Except Cause (Option (Record EventBody))
  | [], found => .ok found
  | (key, node) :: rest, found => do
      if (← key.read) = "type" then
        match found with
        | some _ => .error .data
        | none => do
            let kind ← kindDecoder levels node
            readMembers levels rest (some kind)
      else do
        let _ ← Node.toValue levels node
        readMembers levels rest found

/-- Decodes an event. Only an object is one: an array is read as free JSON behind the kind and
refused. -/
def decoder : Decoder Event := fun levels node =>
  match node with
  | .object members close => do
      let inner ← Node.enter levels
      match ← readMembers inner members none with
      | none => do
          Node.Close.pass close
          .error .data
      | some kind => do
          Node.Close.pass close
          -- only shapes can be wrong now
          match (record kind).decoder none (.object members .closed) with
          | .ok e => .ok e
          | .error _ => .error .data
  | .array items close => do
      let inner ← Node.enter levels
      match items with
      | [] => do
          Node.Close.pass close
          .error .data
      | first :: rest => do
          let _ ← kindDecoder inner first
          let _ ← Node.toItems inner rest
          Node.Close.pass close
          .error .data
  | other => .error other.mismatch

end Event

end AgentSessions
