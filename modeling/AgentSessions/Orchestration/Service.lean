import AgentSessions.Engine.Run
import AgentSessions.Hook.Chain
import AgentSessions.Orchestration.World
import AgentSessions.Tool.Registry

/-!
# Serving engines

The collaborators of an engine are processes in a world. `serve` turns the dialogue of an engine
into a process: every question is put to the collaborator whom it concerns, and those that are raced
against the token of the engine are abandoned when it is tripped.
-/

set_option autoImplicit false

namespace AgentSessions

open Json (Object)
open Simulation (Proc)

/-- Those with whom an engine works. -/
structure Collaborators (η : Type) where
  model : ModelRequest → Act η (Except ModelError ModelResponse)
  tools : ToolRegistry (Act η)
  preChecks : List (PreRequest → Act η PreOutcome)
  postChecks : List (PostRequest → Act η PostOutcome)
  confirm : Option (ConfirmationRequest → Act η (Except HookError Bool))
  compaction : Option Engine.Compactor
  /-- A summarizer of its own, for engines that are set up with one. -/
  summarize : List Turn → Act η (Except SummarizerError String)
  load : SessionId → Act η (Except StoreError (Option Snapshot))
  save : SessionId → Snapshot → Act η (Except StoreError Unit)

structure Seat where
  session : SessionId
  depth : UInt32
  token : Token
  deriving DecidableEq, Repr

namespace Collaborators

variable {η α : Type}

def setup (c : Collaborators η) (settings : EngineSettings) (systemPrompt : Option String)
    (depth : UInt32) : Engine.Setup where
  settings := settings
  systemPrompt := systemPrompt
  depth := depth
  tools := ToolRegistry.definitions c.tools
  checks := c.preChecks.length
  reviews := c.postChecks.length
  confirms := c.confirm.isSome
  compaction := c.compaction

/-- Puts a question to the collaborator whom it concerns. -/
def answer (c : Collaborators η) (seat : Seat) :
    (question : Engine.Ask) → Act η question.Answer
  | .now => Act.now
  | .isCancelled => World.isTripped seat.token <$> Proc.get
  | .chat request => Proc.orTripped (World.isTripped seat.token) (c.model request)
  | .consult request => c.model request
  | .summarize turns => c.summarize turns
  | .check number request =>
      match c.preChecks[number]? with
      | some check => check request
      | none => pure .allow
  | .confirm request =>
      match c.confirm with
      | some confirm => confirm request
      | none => pure (.ok true)
  | .execute tool arguments call =>
      Proc.orTripped (World.isTripped seat.token)
        (ToolRegistry.execute c.tools tool arguments
          ⟨seat.session, call, seat.depth, seat.token⟩)
  | .review number request =>
      match c.postChecks[number]? with
      | some check => check request
      | none => pure .unchanged
  | .save snapshot => c.save seat.session snapshot
  | .report body => do
      let now ← Act.millis
      Proc.modify (World.publish seat.session body now)
  | .warn warning => Proc.modify (World.warn warning)

def serve (c : Collaborators η) (seat : Seat) : Dialogue α → Act η α
  | .done a => .done a
  | .ask question next => (c.answer seat question).bind fun a => serve c seat (next a)

end Collaborators

/-! ## Hooks -/

namespace HookRegistry

variable {η : Type}

/-- Handlers for calls and for results that are processes. -/
abbrev OfActs (η : Type) :=
  HookRegistry (PreRequest → Act η (Except HookError PreOutcome))
    (PostRequest → Act η (Except HookError PostOutcome))

/-- Asks a handler, for as long as it may take. -/
def guarded {α β : Type} (timeout : UInt64) (h : Handler (α → Act η (Except HookError β)))
    (request : α) : Act η (Reply β) :=
  Reply.ofGuarded <$> Proc.orTimeout (h.timeout timeout).toNat (h.behaviour request)

def preCheck (r : OfActs η) (timeout : UInt64) (request : PreRequest) : Act η PreOutcome :=
  r.runPre (guarded timeout) timeout request

def postCheck (r : OfActs η) (timeout : UInt64) (request : PostRequest) : Act η PostOutcome :=
  r.runPost (guarded timeout) timeout request

end HookRegistry

/-- The collaborators with a registry of hooks before the other checks. -/
def Collaborators.withHooks {η : Type} (c : Collaborators η) (r : HookRegistry.OfActs η)
    (timeout : UInt64) : Collaborators η :=
  { c with
    preChecks := r.preCheck timeout :: c.preChecks
    postChecks := r.postCheck timeout :: c.postChecks }

end AgentSessions
