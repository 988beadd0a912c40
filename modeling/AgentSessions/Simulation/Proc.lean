/-!
# Processes in virtual time

A `Proc σ α` is a computation that reads and replaces a shared state `σ`, sleeps, waits for the
state to pass a test, and ends with an `α`, in a panic or never. It is a finite tree, so running it
up to its next wait is a structural recursion.

Two brackets cut a computation short. `unless` abandons its body when a test of the state passes;
the test is looked at before the body, whenever the process is woken. `within` abandons its body at
a deadline; the body is looked at first, so one that is done at the deadline is in time. A `leave`
ends the innermost bracket.
-/

set_option autoImplicit false

namespace AgentSessions.Simulation

/-- A computation over a shared state. -/
inductive Proc (σ α : Type) where
  | done (a : α)
  /-- Ends without a result, taking its thread with it. -/
  | panic
  | observe (next : σ → Proc σ α)
  | update (s : σ) (next : Proc σ α)
  /-- Reads the clock, in milliseconds. -/
  | clock (next : Nat → Proc σ α)
  /-- Waits for some milliseconds; for none it does not wait at all. -/
  | sleep (ms : Nat) (next : Proc σ α)
  /-- Waits until the state passes a test. -/
  | await (ready : σ → Bool) (next : Proc σ α)
  /-- Lets every other ready process run. -/
  | pause (next : Proc σ α)
  | hang
  /-- Opens a bracket that is left for `instead` once the state passes a test. -/
  | unless (tripped : σ → Bool) (instead body : Proc σ α)
  /-- Opens a bracket that is left for `instead` after some milliseconds. -/
  | within (ms : Nat) (instead body : Proc σ α)
  /-- Ends the innermost bracket. -/
  | leave (next : Proc σ α)

namespace Proc

variable {σ α β : Type}

def bind : Proc σ α → (α → Proc σ β) → Proc σ β
  | .done a, f => f a
  | .panic, _ => .panic
  | .observe next, f => .observe fun s => (next s).bind f
  | .update s next, f => .update s (next.bind f)
  | .clock next, f => .clock fun now => (next now).bind f
  | .sleep ms next, f => .sleep ms (next.bind f)
  | .await ready next, f => .await ready (next.bind f)
  | .pause next, f => .pause (next.bind f)
  | .hang, _ => .hang
  | .unless tripped instead body, f => .unless tripped (instead.bind f) (body.bind f)
  | .within ms instead body, f => .within ms (instead.bind f) (body.bind f)
  | .leave next, f => .leave (next.bind f)

instance : Monad (Proc σ) where
  pure := .done
  bind := .bind

def get : Proc σ σ := .observe .done

def modify (f : σ → σ) : Proc σ Unit :=
  .observe fun s => .update (f s) (.done ())

def modifyGet (f : σ → α × σ) : Proc σ α :=
  .observe fun s => let (a, s') := f s; .update s' (.done a)

def delay (ms : Nat) : Proc σ Unit := .sleep ms (.done ())

def waitFor (ready : σ → Bool) : Proc σ Unit := .await ready (.done ())

/-- The computation, or `none` once the state passes the test. -/
def orTripped (tripped : σ → Bool) (p : Proc σ α) : Proc σ (Option α) :=
  .unless tripped (.done none) (p.bind fun a => .leave (.done (some a)))

/-- The computation, or `none` after some milliseconds. -/
def orTimeout (ms : Nat) (p : Proc σ α) : Proc σ (Option α) :=
  .within ms (.done none) (p.bind fun a => .leave (.done (some a)))

end Proc

end AgentSessions.Simulation
