import AgentSessions.Check.Permission
import AgentSessions.Engine.Setup
import AgentSessions.Session.Basic

/-!
# Settling the calls of an answer

Every call that the model asks for is settled in one of five ways, and each leaves the same trace: a
turn with its result, a record in the audit trail and an event. Calls are settled in order. When the
run is cancelled or a quota is used up, the remaining calls are settled without running, so that
every call in the history has its result.
-/

set_option autoImplicit false

namespace AgentSessions.Engine

open Json (Object)

structure RunState where
  session : Session
  /-- How often the model was asked. -/
  steps : Nat
  /-- How many tools ran to their end. -/
  executed : Nat
  /-- Whether a quota was used up, so that the model has to answer without tools. -/
  forced : Bool
  /-- The last text that the model gave along with its calls. -/
  lastText : Option String

namespace RunState

def start (session : Session) : RunState := ⟨session, 0, 0, false, none⟩

def step (st : RunState) : UInt32 := UInt32.ofNat st.steps

def addTurn (st : RunState) (turn : Turn) : RunState :=
  { st with session := st.session.addTurn turn }

end RunState

/-- How a call is settled: its outcome, the text of its result, and whether that is an error. -/
structure Settlement where
  outcome : CallOutcome
  text : String
  isError : Bool
  deriving DecidableEq

namespace Settlement

def denied (reason : String) : Settlement :=
  ⟨.denied, "Tool call denied: " ++ reason, false⟩

/-- A call that its quota stands against. -/
def overQuota (tool : String) (exceeded : QuotaExceeded) : Settlement :=
  ⟨.quotaExceeded,
    "Not executed: " ++ tool ++ " reached its limit of " ++ toString exceeded.limit.toNat
      ++ " calls per " ++ exceeded.scope.name ++ ".", true⟩

/-- A call whose tool was still running when the run was cancelled. -/
def interrupted : Settlement :=
  ⟨.cancelled, "Cancelled before the tool finished.", true⟩

def ran (result : ToolOutcome) : Settlement :=
  ⟨if result.success then .succeeded else .failed, result.content, !result.success⟩

def leftCancelled : Settlement :=
  ⟨.cancelled, "Not executed: the run was cancelled.", true⟩

def leftOverQuota : Settlement :=
  ⟨.quotaExceeded, "Not executed: tool call limit reached.", true⟩

end Settlement

/-- Leaves the trace of a call that is settled. -/
def settle (call : ToolCall) (arguments : Object) (s : Settlement) (st : RunState) :
    Dialogue RunState := do
  let now ← Dialogue.now
  let session := st.session.addTurn (.toolResult call.id s.text s.isError now)
  let session := session.addRecord ⟨call.name, arguments, st.step, s.outcome, now⟩
  Dialogue.report (.toolEnd call.id.text call.name s.outcome)
  pure { st with session := session }

/-- Settles calls that are not looked at any more. -/
def leave (s : Settlement) : List ToolCall → RunState → Dialogue RunState
  | [], st => pure st
  | call :: rest, st => do
      let st ← settle call call.arguments s st
      leave s rest st

/-- Runs the tool of a call and has its result reviewed; `none` when the run is cancelled before the
tool is done. -/
def execute (setup : Setup) (session : SessionId) (call : ToolCall) (arguments : Object) :
    Dialogue (Option ToolOutcome) := do
  match ← Dialogue.put (.execute call.name arguments call.id) with
  | none => pure none
  | some result => do
      let result ←
        review setup.postChecks ⟨session, call.name, arguments, call.id, result⟩
      pure (some result)

def RunState.countRun (st : RunState) (tool : String) : RunState :=
  { st with
    session := { st.session with counts := st.session.counts.record tool }
    executed := st.executed + 1 }

/-- Runs the tool of a call that is allowed and within its quota. -/
def runTool (setup : Setup) (call : ToolCall) (arguments : Object) (st : RunState) :
    Dialogue (CallOutcome × RunState) := do
  Dialogue.report (.toolStart call.id.text call.name)
  match ← execute setup st.session.id call arguments with
  | none => do
      let st ← settle call arguments .interrupted st
      pure (.cancelled, st)
  | some result => do
      let st ← settle call arguments (.ran result) (st.countRun call.name)
      pure ((Settlement.ran result).outcome, st)

/-- Settles one call: it needs permission, then room in its quota, then its tool runs. -/
def handle (setup : Setup) (call : ToolCall) (st : RunState) :
    Dialogue (CallOutcome × RunState) := do
  match ← Permission.judge setup.preChecks setup.confirmer st.session.id call with
  | .deny reason arguments => do
      let st ← settle call arguments (.denied reason) st
      pure (.denied, st)
  | .proceed arguments =>
      match st.session.counts.checkWith call.name setup.settings with
      | some exceeded => do
          Dialogue.report (.quotaExceeded call.name exceeded.limit)
          let st ← settle call arguments (.overQuota call.name exceeded) st
          pure (.quotaExceeded, st)
      | none => runTool setup call arguments st

/-- Settles the calls of an answer in order. The result tells whether the run was cancelled on the
way. -/
def resolve (setup : Setup) : List ToolCall → RunState → Dialogue (Bool × RunState)
  | [], st => pure (false, st)
  | call :: rest, st => do
      if ← Dialogue.isCancelled then
        let st ← leave .leftCancelled (call :: rest) st
        pure (true, st)
      else if st.forced then
        let st ← leave .leftOverQuota (call :: rest) st
        pure (false, st)
      else
        match ← handle setup call st with
        | (.cancelled, st) => do
            let st ← leave .leftCancelled rest st
            pure (true, st)
        | (.quotaExceeded, st) => resolve setup rest { st with forced := true }
        | (_, st) => resolve setup rest st

end AgentSessions.Engine
