import AgentSessions.Rehearsal.Cast
import AgentSessions.Rehearsal.Naming
import AgentSessions.Rehearsal.Reading.Causes
import AgentSessions.Rehearsal.Reading.History

/-!
# Collaborators described in JSON

Models, tools, checks, hook handlers, confirmers, summarizers and stores of a rehearsal are written
down as objects. What is left out of a description has a plain default: a tool gives its arguments
back, a check allows, a reply is an empty text.
-/

set_option autoImplicit false

namespace AgentSessions.Rehearsal.Reading

open Json (Decoder Object Value)
open Simulation (Proc)

/-! ## Tools -/

/-- The outcome of a tool: `ok` or `failure` with a text, or its full JSON. -/
def outcome? (v : Value) : Option ToolOutcome :=
  match v.text? "ok", v.text? "failure" with
  | some text, _ => some (.ok text)
  | none, some text => some (.failure text)
  | none, none => v.read? ToolOutcome.decoder

def toolKind? (v : Value) : Option ToolKind :=
  match v.textOr "kind" "echo" with
  | "echo" => some .echo
  | "count" => some .count
  | "context" => some .context
  | "outcome" => .outcome <$> outcome? (v.get "outcome")
  | "error" => .error <$> toolError? (v.get "error")
  | "panic" => some .panic
  | "hang" => some .hang
  | _ => none

def tool? (v : Value) : Option (Tool (Act Cast)) := do
  let name ← v.text? "name"
  let parameters : Value := .object [("type", .string "object")]
  let spec : ToolSpec := ⟨v.textOr "specName" name, v.textOr "description" "", parameters⟩
  some (StageTool.tool ⟨name, spec, ← toolKind? v, v.flag "cancel", v.natOr "delayMs" 0⟩)

def tools? (v : Value) : Option (ToolRegistry (Act Cast)) := do
  some (ToolRegistry.ofTools (← v.items.mapM tool?))

/-! ## Checks and hook handlers -/

def only (v : Value) : Only :=
  if v.has "only" then some (v.get "only").texts else none

/-- What a check says: the first member that is there tells. -/
def preLine (v : Value) : PreLine :=
  if v.has "addArg" then .addArgs (Object.ofValue (v.get "addArg")) (v.text? "ask")
  else
    match v.text? "denyIf", v.text? "deny", v.text? "ask" with
    | some key, _, _ => .denyIf key
    | none, some reason, _ => .fixed (.deny reason)
    | none, none, some reason => .fixed (.ask reason)
    | none, none, none =>
        if v.has "args" then .fixed (.allowWith (Object.ofValue (v.get "args")))
        else .fixed (((v.get "outcome").read? PreOutcome.decoder).getD .allow)

/-- What a review says: the first member that is there tells. -/
def postLine (v : Value) : PostLine :=
  match v.text? "append", v.text? "feedback", outcome? (v.get "replace") with
  | some text, _, _ => .append text
  | none, some note, _ => .fixed (.note note)
  | none, none, some result => .fixed (.replace result)
  | none, none, none =>
      .fixed (((v.get "outcome").read? PostOutcome.decoder).getD .unchanged)

def preCheck (v : Value) : PreRequest → Part PreOutcome :=
  check (only v) (preLine v)

def postCheck (v : Value) : PostRequest → Part PostOutcome :=
  review (only v) (postLine v)

/-- The error of a handler, if it fails: a text is in the name of the handler. -/
def handlerError? (v : Value) : Option (Option HookError) :=
  match v.get "error" with
  | .null => some none
  | .string text => some (some (.handler (v.textOr "name" "") text))
  | other => some <$> hookError? other

def register? (r : HookRegistry.OfActs Cast) (v : Value) : Option (HookRegistry.OfActs Cast) := do
  let name ← v.text? "name"
  let priority ← (v.get "priority").readOr Decoder.int32 0
  let error ← handlerError? v
  let handler {β : Type} (behaviour : β) : Handler β :=
    ⟨name, priority, v.word? "timeoutMs", accepts (only v), behaviour⟩
  let delay := v.natOr "sleepMs" 0
  match ← v.text? "point" with
  | "pre" =>
      some (r.registerPre (handler
        (handle name (fun q : PreRequest => q.arguments.toValue) delay error (preLine v).answer)))
  | "post" =>
      some (r.registerPost (handler
        (handle name (fun q : PostRequest => q.result.encode) delay error (postLine v).answer)))
  | _ => none

def hooks? (v : Value) : Option (HookRegistry.OfActs Cast) :=
  v.items.foldlM register? .empty

def confirmer? : Value → Option (Option (ConfirmationRequest → Part (Except HookError Bool)))
  | .null => some none
  | .bool yes => some (some (confirm (.fixed yes)))
  | v =>
      if v.has "error" then
        (fun e => some (confirm (.failing e))) <$> hookError? (v.get "error")
      else some (some (confirm (.yesIfReason (v.text? "yesIfReason"))))

/-! ## Models and stores -/

def cue? (v : Value) : Option Cue := do
  let answer ←
    if v.has "error" then .error <$> modelError? (v.get "error")
    else do
      let calls ← calls? (v.get "toolCalls")
      some (.ok ⟨v.textOr "content" "", calls, v.text? "thinking"⟩)
  some ⟨answer, v.natOr "delayMs" 0, v.flag "hang", v.flag "cancel"⟩

def script? (v : Value) : Option Script := do
  let byPrompt ← (v.get "byPrompt").members.mapM fun m => do
    some (m.1, ← m.2.items.mapM cue?)
  some ⟨← (v.list "script").mapM cue?, .ofList byPrompt⟩

/-- The model of a rehearsal: tasks that are named by number in the arguments of its calls are
called by their identifiers. -/
def namingModel (request : ModelRequest) : Part (Except ModelError ModelResponse) := do
  let answer ← model request
  let b := (← Proc.get).board
  let resolved (call : ToolCall) : ToolCall :=
    { call with arguments := Object.ofValue (Naming.resolve b call.arguments.toValue) }
  pure (answer.map fun r => { r with toolCalls := r.toolCalls.map resolved })

def numbers (vs : List Value) : List Nat :=
  vs.filterMap fun
    | .int i => some i.toNat
    | _ => none

/-- A store with the sessions that are in it from the start. -/
def storage? (v : Value) : Option Storage := do
  let memory ← (v.get "sessions").members.foldlM (fun memory session => do
    some (memory.save ⟨session.1⟩ (← snapshot? session.2))) MemoryStore.empty
  let store := v.get "store"
  let error ← if store.has "error" then storeError? (store.get "error") else some (.backend "down")
  some { Storage.ofMemory memory with
    failLoads := numbers (store.list "failLoads")
    failSaves := numbers (store.list "failSaves")
    error := error }

/-! ## Summarizers -/

/-- A summarizer as an engine knows it, what it does, and the script of its own model. -/
def summarizer? : Value → Option (Engine.Summarizer × Summarizing × Script)
  | .null => some (.none, .failing .empty, .empty)
  | .string "keyword" => some (.keywords, .failing .empty, .empty)
  | .string "model" => some (.model, .failing .empty, .empty)
  | v =>
      if v.has "script" then do some (.custom, .modelled, ← script? v)
      else
        match v.text? "text", v.text? "callFailed" with
        | some text, _ => some (.custom, .fixed text, .empty)
        | none, some detail => some (.custom, .failing (.callFailed detail), .empty)
        | none, none => some (.custom, .failing .empty, .empty)

/-! ## All together -/

/-- The collaborators of an engine, without compaction. -/
def company? (v : Value) (hookTimeout : UInt64) : Option (Collaborators Cast × Cast) := do
  let hooks ← hooks? (v.get "hooks")
  let plain : Collaborators Cast :=
    { model := namingModel
      tools := ← tools? (v.get "tools")
      preChecks := (v.list "preChecks").map preCheck
      postChecks := (v.list "postChecks").map postCheck
      confirm := ← confirmer? (v.get "confirmer")
      compaction := none
      summarize := fun _ => pure (.error .empty)
      load := load
      save := save }
  some (if hooks.isEmpty then plain else plain.withHooks hooks hookTimeout,
    Cast.new (← script? v) (← storage? v))

/-- The collaborators with compaction. -/
def compacting? (company : Collaborators Cast × Cast) (settings : CompactionSettings)
    (summarizer : Value) : Option (Collaborators Cast × Cast) := do
  let (kind, s, script) ← summarizer? summarizer
  some ({ company.1 with compaction := some (.context settings kind), summarize := summarize s },
    { company.2 with aside := script })

/-- The collaborators of an engine, with compaction if that is described. -/
def troupe? (v : Value) : Option (Collaborators Cast × Cast) := do
  let company ← company? v ((v.word? "hookTimeoutMs").getD defaultHookTimeoutMs)
  let compactor := v.get "compactor"
  if compactor == .null then some company
  else
    let settings ← (compactor.get "settings").readOr CompactionSettings.decoder default
    compacting? company settings (compactor.get "summarizer")

end AgentSessions.Rehearsal.Reading
