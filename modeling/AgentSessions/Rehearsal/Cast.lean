import AgentSessions.Orchestration.Service
import AgentSessions.Rehearsal.Script

/-!
# The cast of a rehearsal

Scripted models, tools, hook handlers, checks, confirmers and summarizers as collaborators of an
engine. What they share is the state of the rehearsal: how far the scripts have come, what the
models were asked and which handlers ran.
-/

set_option autoImplicit false

namespace AgentSessions.Rehearsal

open Json (Object Value)
open Simulation (Proc)

/-- The state of a rehearsal. -/
structure Cast where
  script : Script
  requests : Array ModelRequest
  /-- The script of a model that only summarizes. -/
  aside : Script
  storage : Storage
  calls : Dict Nat
  /-- The handlers that ran, with what they were shown. -/
  handled : Array (String × Value)
  /-- The token that the model trips. -/
  token : Option Token

def Cast.new (script : Script) (storage : Storage) : Cast :=
  ⟨script, #[], .empty, storage, .empty, #[], none⟩

abbrev Part (α : Type) := Act Cast α

/-- A step on the state of the rehearsal. -/
def onCast {α : Type} (step : Cast → α × Cast) : Part α :=
  Proc.modifyGet fun w =>
    let (a, cast) := step w.host
    (a, { w with host := cast })

/-! ## Models and stores -/

/-- A reply as a process. -/
def Cue.play (cue : Cue) (token : Option Token) : Part (Except ModelError ModelResponse) := do
  match cue.trips, token with
  | true, some t => Act.trip t
  | _, _ => pure ()
  Proc.delay cue.delayMs
  if cue.hangs then .hang else pure cue.answer

def model (request : ModelRequest) : Part (Except ModelError ModelResponse) := do
  let (cue, token) ← onCast fun cast =>
    let (cue, script) := cast.script.next (promptOf request)
    ((cue, cast.token), { cast with script := script, requests := cast.requests.push request })
  cue.play token

def asideModel (request : ModelRequest) : Part (Except ModelError ModelResponse) := do
  let cue ← onCast fun cast =>
    let (cue, script) := cast.aside.next (promptOf request)
    (cue, { cast with aside := script })
  cue.play none

def load (id : SessionId) : Part (Except StoreError (Option Snapshot)) :=
  onCast fun cast =>
    let (result, storage) := cast.storage.load id
    (result, { cast with storage := storage })

def save (id : SessionId) (snapshot : Snapshot) : Part (Except StoreError Unit) :=
  onCast fun cast =>
    let (result, storage) := cast.storage.save id snapshot
    (result, { cast with storage := storage })

/-! ## Tools -/

inductive ToolKind where
  | echo
  | count
  | context
  | outcome (o : ToolOutcome)
  | error (e : ToolError)
  | panic
  | hang

structure StageTool where
  name : String
  spec : ToolSpec
  kind : ToolKind
  /-- Whether it trips the token of the run that calls it. -/
  trips : Bool
  delayMs : Nat

/-- The text that tells who calls a tool. -/
def contextText (context : ToolContext) (cancelled : Bool) : String :=
  context.sessionId.text ++ " " ++ context.toolCallId.text ++ " "
    ++ toString context.depth.toNat ++ " " ++ toString cancelled

def StageTool.execute (t : StageTool) (arguments : Object) (context : ToolContext) :
    Part (Except ToolError ToolOutcome) := do
  let count ← onCast fun cast =>
    let n := (cast.calls.get? t.name).getD 0 + 1
    (n, { cast with calls := cast.calls.insert t.name n })
  if t.trips then Act.trip context.token
  Proc.delay t.delayMs
  match t.kind with
  | .echo => pure (.ok (.ok arguments.toValue.compact))
  | .count => pure (.ok (.ok ("call " ++ toString count)))
  | .context => do
      let cancelled := World.isTripped context.token (← Proc.get)
      pure (.ok (.ok (contextText context cancelled)))
  | .outcome o => pure (.ok o)
  | .error e => pure (.error e)
  | .panic => .panic
  | .hang => .hang

def StageTool.tool (t : StageTool) : Tool (Act Cast) := ⟨t.name, t.spec, t.execute⟩

/-! ## Checks and handlers -/

/-- What a scripted check says of a call. -/
inductive PreLine where
  | fixed (outcome : PreOutcome)
  /-- Adds arguments, and asks if there is a reason. -/
  | addArgs (arguments : Object) (ask : Option String)
  /-- Denies the call if it has this argument. -/
  | denyIf (key : String)

def PreLine.answer (l : PreLine) (request : PreRequest) : PreOutcome :=
  match l with
  | fixed outcome => outcome
  | addArgs arguments ask =>
      ⟨if ask.isSome then .ask else .allow, ask, some (request.arguments.merge arguments)⟩
  | denyIf key =>
      if (request.arguments.get? key).isSome then .deny (key ++ " not allowed") else .allow

/-- What a scripted review says of a result. -/
inductive PostLine where
  | fixed (outcome : PostOutcome)
  /-- Appends a text to the result. -/
  | append (text : String)

def PostLine.answer (l : PostLine) (request : PostRequest) : PostOutcome :=
  match l with
  | fixed outcome => outcome
  | append text => .replace { request.result with content := request.result.content ++ text }

/-- The tools that a scripted part is interested in; `none` is all of them. -/
abbrev Only := Option (List String)

def accepts (only : Only) (tool : String) : Bool :=
  only.all fun names => names.contains tool

/-- A scripted check. -/
def check (only : Only) (l : PreLine) (request : PreRequest) : Part PreOutcome :=
  pure (if accepts only request.toolName then l.answer request else .allow)

def review (only : Only) (l : PostLine) (request : PostRequest) : Part PostOutcome :=
  pure (if accepts only request.toolName then l.answer request else .unchanged)

/-- A scripted handler: it notes what it is shown, takes its time, then fails or answers. -/
def handle {α β : Type} (name : String) (shown : α → Value) (delayMs : Nat)
    (error : Option HookError) (answer : α → β) (request : α) : Part (Except HookError β) := do
  onCast fun cast => ((), { cast with handled := cast.handled.push (name, shown request) })
  Proc.delay delayMs
  match error with
  | some e => pure (.error e)
  | none => pure (.ok (answer request))

/-- How calls are confirmed. -/
inductive Confirmation where
  | fixed (yes : Bool)
  | failing (e : HookError)
  | yesIfReason (reason : Option String)

/-- A scripted confirmation. -/
def confirm (c : Confirmation) (request : ConfirmationRequest) : Part (Except HookError Bool) :=
  pure <| match c with
    | .fixed yes => .ok yes
    | .failing e => .error e
    | .yesIfReason reason => .ok (request.reason == reason)

/-! ## Summaries -/

/-- How turns are summarized. -/
inductive Summarizing where
  /-- By a model of its own. -/
  | modelled
  /-- By a text in which `$n` stands for the number of turns. -/
  | fixed (text : String)
  | failing (e : SummarizerError)

/-- A scripted summarizer. -/
def summarize (s : Summarizing) (turns : List Turn) : Part (Except SummarizerError String) :=
  match s with
  | .modelled => do
      let now ← Act.now
      Summary.ofAnswer <$> asideModel (Summary.request turns now)
  | .fixed text => pure (.ok (text.replace "$n" (toString turns.length)))
  | .failing e => pure (.error e)

/-- A kind of summarizer as a process; `none` when turns are dropped. -/
def summarizerOf (kind : Engine.Summarizer) (s : Summarizing) :
    Option (List Turn → Part (Except SummarizerError String)) :=
  match kind with
  | .none => none
  | .keywords => some fun turns => pure (.ok (Summary.byKeywords turns))
  | .model | .custom => some (summarize s)

end AgentSessions.Rehearsal
