import AgentSessions.Json.Writer
import AgentSessions.Settings.Basic
import AgentSessions.Task.Operations
import AgentSessions.Tool.Registry

/-!
# The task tool

The board of tasks as a tool for models. One tool with many actions: an `action` among the arguments
tells which. The arguments are read first; an action whose arguments are wrong changes nothing.
-/

set_option autoImplicit false

namespace AgentSessions.TaskTool

open Json (Decoder Object Value)
open Simulation (Proc)

def name : String := "task"

/-! ## What a model is told -/

def actionNames : List String :=
  ["create", "start", "status", "wait", "wait_all", "wait_any", "cancel", "list"]

/-- The agent types with their descriptions, sorted. -/
def agentLines (settings : TaskSettings) : List (String × String) :=
  settings.agents.entries.map fun e => (e.1, e.2.description)

def description (settings : TaskSettings) : String :=
  "Delegate work to sub-agents that run in the background. "
    ++ "Use action=create to start a task, wait/wait_all/wait_any to collect results, "
    ++ "status or list to inspect, cancel to stop one.\n\nAgent types:"
    ++ String.join ((agentLines settings).map fun e => "\n- " ++ e.1 ++ ": " ++ e.2)

def parameter (kind : String) (more : List (String × Value)) : Value :=
  .object (("type", .string kind) :: more)

def described (text : String) : String × Value := ("description", .string text)

def chosen (texts : List String) : String × Value := ("enum", Value.strings texts)

def parameters (settings : TaskSettings) : Value :=
  .object
    [ ("type", .string "object"),
      ("properties", .object
        [ ("action", parameter "string" [chosen actionNames]),
          ("description",
            parameter "string" [described "What the sub-agent should do (create)"]),
          ("agentType",
            parameter "string"
              [chosen ((agentLines settings).map (·.1)),
                described "Sub-agent profile (create, default: general)"]),
          ("priority", parameter "string" [chosen (Priority.all.map Priority.name)]),
          ("autoStart",
            parameter "boolean" [described "Start immediately (create, default: true)"]),
          ("taskId",
            parameter "string" [described "Task to start, inspect, wait on or cancel"]),
          ("taskIds",
            parameter "array"
              [("items", parameter "string" []),
                described "Tasks to wait on (wait_all, wait_any)"]),
          ("timeoutMs", parameter "number" [described "Wait timeout in milliseconds"]),
          ("state",
            parameter "string"
              [chosen (TaskState.all.map TaskState.name), described "Filter (list)"]) ]),
      ("required", Value.strings ["action"]) ]

def spec (settings : TaskSettings) : ToolSpec :=
  ⟨name, description settings, (parameters settings).canonicalize⟩

/-! ## Reading the arguments -/

/-- What a model wants done. -/
inductive Action where
  | create (request : TaskRequest)
  | start (id : TaskId)
  | status (id : TaskId)
  | wait (id : TaskId) (timeout : UInt64)
  | waitAll (ids : List TaskId) (timeout : UInt64)
  | waitAny (ids : List TaskId) (timeout : UInt64)
  | cancel (id : TaskId)
  | list (filter : TaskFilter)
  deriving DecidableEq, Repr

def invalid {α : Type} (detail : String) : Except ToolError α :=
  .error (.invalidArguments name detail)

def text? (arguments : Object) (key : String) : Option String :=
  match arguments.get? key with
  | some (.string s) => some s
  | _ => none

/-- An argument that has to be a text which is not blank. -/
def required (arguments : Object) (key : String) : Except ToolError String :=
  match text? arguments key with
  | some s =>
      if (Text.trim s).isEmpty then invalid ("missing required parameter: " ++ key) else .ok s
  | none => invalid ("missing required parameter: " ++ key)

def taskId (arguments : Object) : Except ToolError TaskId :=
  (required arguments "taskId").map TaskId.mk

def textsAmong (values : List Value) : List String :=
  values.filterMap fun v =>
    match v with
    | .string s => some s
    | _ => none

def taskIds (arguments : Object) : Except ToolError (List TaskId) :=
  let ids := match arguments.get? "taskIds" with
    | some (.array items) => (textsAmong items).map TaskId.mk
    | _ => []
  if ids.isEmpty then invalid "taskIds must contain at least one task ID" else .ok ids

def timeout (settings : TaskSettings) (arguments : Object) : UInt64 :=
  match arguments.get? "timeoutMs" with
  | some (.int i) =>
      if 0 ≤ i ∧ i < 18446744073709551616 then UInt64.ofNat i.toNat
      else settings.defaultWaitTimeoutMs
  | _ => settings.defaultWaitTimeoutMs

def priority (arguments : Object) : Except ToolError Priority :=
  match text? arguments "priority" with
  | none => .ok .normal
  | some s =>
      match Priority.parse s with
      | .ok p => .ok p
      | .error detail => invalid detail

def autoStart (arguments : Object) : Bool :=
  match arguments.get? "autoStart" with
  | some (.bool b) => b
  | _ => true

/-- The state of the tasks that are wanted. -/
def state? (arguments : Object) : Except ToolError (Option TaskState) :=
  match text? arguments "state" with
  | none => .ok none
  | some s =>
      match TaskState.decoder.value? (.string s) with
      | .ok state => .ok (some state)
      | .error _ => invalid ("unknown state: " ++ s)

/-- The action of this name with its arguments. -/
def Action.ofName (settings : TaskSettings) (arguments : Object) (context : ToolContext) :
    String → Except ToolError Action
  | "create" => do
      let description ← required arguments "description"
      let priority ← priority arguments
      .ok <| .create
        { description := description
          agentType := (text? arguments "agentType").getD "general"
          priority := priority
          parentSession := some context.sessionId
          autoStart := autoStart arguments
          depth := context.depth + 1 }
  | "start" => start <$> taskId arguments
  | "status" => status <$> taskId arguments
  | "wait" => do .ok (.wait (← taskId arguments) (timeout settings arguments))
  | "wait_all" => do .ok (.waitAll (← taskIds arguments) (timeout settings arguments))
  | "wait_any" => do .ok (.waitAny (← taskIds arguments) (timeout settings arguments))
  | "cancel" => cancel <$> taskId arguments
  | "list" => do .ok (.list ⟨← state? arguments, some context.sessionId⟩)
  | other =>
      invalid ("unknown action \"" ++ other ++ "\", expected one of: "
        ++ ", ".intercalate actionNames)

def Action.read (settings : TaskSettings) (arguments : Object) (context : ToolContext) :
    Except ToolError Action := do
  Action.ofName settings arguments context (← required arguments "action")

/-! ## Acting -/

/-- A value as the result of the tool. -/
def render (v : Value) : Except ToolError ToolOutcome :=
  .ok (.ok v.pretty)

/-- The result of an operation on tasks. -/
def settle {α : Type} (encode : α → Value) : Except TaskError α → Except ToolError ToolOutcome
  | .ok a => render (encode a)
  | .error e => .error (.execution name e.message)

/-- Waits unless the calling run is cancelled first. -/
def untilCancelled {η α : Type} (token : Token) (encode : α → Value)
    (p : Act η (Except TaskError α)) : Act η (Except ToolError ToolOutcome) := do
  match ← Proc.orTripped (World.isTripped token) p with
  | none => pure (.error (.cancelled name))
  | some result => pure (settle encode result)

def encodeAll (tasks : List Task) : Value :=
  .array (tasks.map Task.encode)

/-- Does what a model wants. -/
def perform {η : Type} (token : Token) : Action → Act η (Except ToolError ToolOutcome)
  | .create request => settle Task.encode <$> Tasks.create request
  | .start id => settle Task.encode <$> Tasks.start id
  | .status id => do
      match ← Tasks.look fun b => b.get? id with
      | some t => pure (render t.encode)
      | none => pure (settle Task.encode (.error (.notFound id)))
  | .wait id timeout => untilCancelled token Task.encode (Tasks.wait id timeout)
  | .waitAll ids timeout => untilCancelled token encodeAll (Tasks.waitAll ids timeout)
  | .waitAny ids timeout => untilCancelled token Task.encode (Tasks.waitAny ids timeout)
  | .cancel id => do
      let cancelled ← Tasks.cancel id
      pure (render (.object [("cancelled", .bool cancelled), ("taskId", id.encode)]))
  | .list filter => do
      pure (render (encodeAll (← Tasks.look fun b => b.list filter)))

/-- Runs the tool. Without a scheduler there is nothing to act on. -/
def execute {η : Type} (settings : TaskSettings) (arguments : Object) (context : ToolContext) :
    Act η (Except ToolError ToolOutcome) := do
  if !(← Proc.get).hasScheduler then
    pure (.error (.execution name "task scheduler has shut down"))
  else
    match Action.read settings arguments context with
    | .error e => pure (.error e)
    | .ok action => perform context.token action

def tool {η : Type} (settings : TaskSettings) : Tool (Act η) :=
  ⟨name, spec settings, execute settings⟩

end AgentSessions.TaskTool
