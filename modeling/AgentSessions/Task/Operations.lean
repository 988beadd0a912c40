import AgentSessions.Orchestration.World

/-!
# Operations on tasks

The operations on the board as processes: they take the time and fresh identifiers from the world,
publish what changed, trip the tokens of tasks that are cancelled, and wait.
-/

set_option autoImplicit false

namespace AgentSessions.Tasks

open Simulation (Proc)

variable {η : Type}

def create (request : TaskRequest) : Act η (Except TaskError Task) := do
  let now ← Act.millis
  let fresh ← Proc.modifyGet fun w =>
    let (task, w) := w.mint TaskId.fresh now
    let (session, w) := w.mint SessionId.fresh now
    let (token, w) := w.freshToken
    ((⟨task, session, token⟩ : Board.Fresh), w)
  Act.onBoard fun b now =>
    let (result, b) := b.create request fresh now
    ((result, []), b)

def start (id : TaskId) : Act η (Except TaskError Task) :=
  Act.onBoard fun b _ =>
    let (result, b) := b.start id
    ((result, []), b)

/-- Cancels a task; tells whether it was cancelled by this. -/
def cancel (id : TaskId) : Act η Bool :=
  Act.onBoard fun b now =>
    let (token, b) := b.cancel id now
    ((token.isSome, token.toList), b)

/-- Cancels every open task; tells how many. -/
def shutdown : Act η Nat :=
  Act.onBoard fun b now =>
    let (tokens, b) := b.shutdown now
    ((tokens.length, tokens), b)

/-- Looks at the board. -/
def look {α : Type} (view : Board → α) : Act η α := do
  pure (view (← Proc.get).board)

/-! ## Waiting -/

/-- Waits until the board passes a test, but no longer than so many milliseconds; then looks at the
board. -/
def await {α : Type} (timeout : UInt64) (ready : Board → Bool)
    (view : Board → Except TaskError α) : Act η (Except TaskError α) := do
  match ← Proc.orTimeout timeout.toNat (Proc.waitFor fun w => ready w.board) with
  | none => pure (.error (.timeout timeout))
  | some () => look view

def wait (id : TaskId) (timeout : UInt64) : Act η (Except TaskError Task) := do
  match ← look fun b => b.waitRefusal? id with
  | some e => pure (.error e)
  | none => await timeout (fun b => b.isDone id) fun b => b.waited id

/-- Waits for all of some tasks. -/
def waitAll (ids : List TaskId) (timeout : UInt64) : Act η (Except TaskError (List Task)) := do
  match ← look fun b => b.waitRefusalAll? ids with
  | some e => pure (.error e)
  | none => await timeout (fun b => ids.all b.isDone) fun b => .ok (b.records ids)

/-- Waits for the first of some tasks. -/
def waitAny (ids : List TaskId) (timeout : UInt64) : Act η (Except TaskError Task) := do
  if ids.isEmpty then pure (.error (.invalidRequest "no task ids given"))
  else
    match ← look fun b => b.waitRefusalAll? ids with
    | some e => pure (.error e)
    | none =>
        await timeout (fun b => ids.any b.isDone) fun b =>
          match b.firstDone? ids with
          | some t => .ok t
          | none => .error (.invalidRequest "no task ids given")

end AgentSessions.Tasks
