import AgentSessions.Event
import AgentSessions.History.Snapshot
import AgentSessions.Hook.Request
import AgentSessions.Model
import AgentSessions.Compaction.Summary
import AgentSessions.Run.Outcome
import AgentSessions.Warning

/-!
# Dialogues

An engine does nothing by itself: it asks its surroundings and goes on with their answers. A
`Dialogue α` is a computation of this kind, as a tree that branches over the answers to each
question. So everything that can happen in a run is there to be reasoned about: a run is a path
through the tree, and what the model, the tools, the checks, the store and the one who cancels do is
the choice of the path.

Two questions are raced against the cancellation of the run: they are answered with `none` when the
token is tripped first.
-/

set_option autoImplicit false

namespace AgentSessions.Engine

open Json (Object)

/-- What an engine asks of its surroundings. -/
inductive Ask where
  | now
  | isCancelled
  /-- An answer of the model, unless the token is tripped first. -/
  | chat (request : ModelRequest)
  /-- An answer of the model to a question for a summary, however long it takes. -/
  | consult (request : ModelRequest)
  /-- A summary from a summarizer of its own. -/
  | summarize (turns : List Turn)
  /-- What the check with this number says of a call. -/
  | check (number : Nat) (request : PreRequest)
  | confirm (request : ConfirmationRequest)
  /-- The outcome of a tool, unless the token is tripped first. -/
  | execute (tool : String) (arguments : Object) (call : CallId)
  /-- What the review with this number says of a result. -/
  | review (number : Nat) (request : PostRequest)
  | save (snapshot : Snapshot)
  | report (body : EventBody)
  | warn (warning : Warning)

abbrev Ask.Answer : Ask → Type
  | now => Instant
  | isCancelled => Bool
  | chat _ => Option (Except ModelError ModelResponse)
  | consult _ => Except ModelError ModelResponse
  | summarize _ => Except SummarizerError String
  | check _ _ => PreOutcome
  | confirm _ => Except HookError Bool
  | execute _ _ _ => Option ToolOutcome
  | review _ _ => PostOutcome
  | save _ => Except StoreError Unit
  | report _ => Unit
  | warn _ => Unit

end AgentSessions.Engine

namespace AgentSessions

open Engine (Ask)

/-- A computation that asks its surroundings. -/
inductive Dialogue (α : Type) : Type where
  | done (a : α)
  | ask (question : Ask) (next : question.Answer → Dialogue α)

namespace Dialogue

variable {α β : Type}

/-- One dialogue after another. -/
def bind : Dialogue α → (α → Dialogue β) → Dialogue β
  | .done a, f => f a
  | .ask question next, f => .ask question fun answer => (next answer).bind f

instance : Monad Dialogue where
  pure := .done
  bind := .bind

def put (question : Ask) : Dialogue question.Answer :=
  .ask question .done

def now : Dialogue Instant := put .now

def isCancelled : Dialogue Bool := put .isCancelled

def report (body : EventBody) : Dialogue Unit := put (.report body)

instance : MonadWarn Dialogue := ⟨fun w => put (.warn w)⟩

/-- Whatever is answered, only questions of one kind are asked. -/
def Only (kind : Ask → Bool) : Dialogue α → Prop
  | .done _ => True
  | .ask question next => kind question = true ∧ ∀ answer, (next answer).Only kind

theorem Only.bind {kind : Ask → Bool} {d : Dialogue α} {f : α → Dialogue β} (h : d.Only kind)
    (hf : ∀ a, (f a).Only kind) : (d >>= f).Only kind := by
  show (d.bind f).Only kind
  induction d with
  | done a => exact hf a
  | ask question next ih => exact ⟨h.1, fun answer => ih answer (h.2 answer)⟩

theorem only_put {kind : Ask → Bool} {question : Ask} (h : kind question = true) :
    (put question).Only kind :=
  ⟨h, fun _ => trivial⟩

end Dialogue

end AgentSessions
