import AgentSessions.Simulation.Proc

/-!
# Threads

A thread is a process that has been run up to a wait: the wait, and the brackets it stands in. It
is polled when something it waits for may have come: first the outermost `unless` whose test
passes abandons the body, then the body goes on if it can, and last a deadline that has come
abandons the body of the innermost `within`.
-/

set_option autoImplicit false

namespace AgentSessions.Simulation

variable {σ α : Type}

inductive Frame (σ α : Type) where
  | unless (tripped : σ → Bool) (instead : Proc σ α)
  | within (deadline : Nat) (instead : Proc σ α)

/-- What a thread waits for. -/
inductive Suspension (σ α : Type) where
  | runnable (next : Proc σ α)
  | sleeping (deadline : Nat) (next : Proc σ α)
  | waiting (ready : σ → Bool) (next : Proc σ α)
  | never

/-- A process at a wait, with the brackets it stands in, innermost first. -/
structure Thread (σ α : Type) where
  frames : List (Frame σ α)
  point : Suspension σ α

/-- How far a process has come. -/
inductive Progress (σ α : Type) where
  | finished (a : α) (s : σ)
  | panicked (s : σ)
  | suspended (t : Thread σ α) (s : σ)

/-- Runs a process until it ends or has to wait. -/
def advance (now : Nat) : Proc σ α → List (Frame σ α) → σ → Progress σ α
  | .done a, _, s => .finished a s
  | .panic, _, s => .panicked s
  | .observe next, frames, s => advance now (next s) frames s
  | .update s next, frames, _ => advance now next frames s
  | .clock next, frames, s => advance now (next now) frames s
  | .sleep ms next, frames, s =>
      if ms = 0 then advance now next frames s
      else .suspended ⟨frames, .sleeping (now + ms) next⟩ s
  | .await ready next, frames, s =>
      if ready s then advance now next frames s
      else .suspended ⟨frames, .waiting ready next⟩ s
  | .pause next, frames, s => .suspended ⟨frames, .runnable next⟩ s
  | .hang, frames, s => .suspended ⟨frames, .never⟩ s
  | .unless tripped instead body, frames, s =>
      if tripped s then advance now instead frames s
      else advance now body (.unless tripped instead :: frames) s
  | .within ms instead body, frames, s =>
      advance now body (.within (now + ms) instead :: frames) s
  | .leave next, frames, s => advance now next frames.tail s

namespace Thread

def ofProc (p : Proc σ α) : Thread σ α := ⟨[], .runnable p⟩

/-- The outermost `unless` whose test passes: what to do instead, and the brackets around it. -/
def tripped (s : σ) : List (Frame σ α) → Option (Proc σ α × List (Frame σ α))
  | [] => none
  | frame :: outer =>
      match tripped s outer with
      | some found => some found
      | none =>
          match frame with
          | .unless test instead => if test s then some (instead, outer) else none
          | .within .. => none

/-- The innermost `within` whose deadline has come. -/
def expired (now : Nat) : List (Frame σ α) → Option (Proc σ α × List (Frame σ α))
  | [] => none
  | .within deadline instead :: outer =>
      if deadline ≤ now then some (instead, outer) else expired now outer
  | .unless .. :: outer => expired now outer

/-- The process behind the wait, if the wait is over. -/
def released (now : Nat) (s : σ) : Suspension σ α → Option (Proc σ α)
  | .runnable next => some next
  | .sleeping deadline next => if deadline ≤ now then some next else none
  | .waiting ready next => if ready s then some next else none
  | .never => none

/-- Whether polling the thread would get it further. -/
def wakeable (now : Nat) (s : σ) (t : Thread σ α) : Bool :=
  (tripped s t.frames).isSome || (released now s t.point).isSome || (expired now t.frames).isSome

/-- Abandons brackets whose deadline has come while the thread was run; `fuel` bounds how many. -/
def lapse (now : Nat) : (fuel : Nat) → Progress σ α → Progress σ α
  | fuel + 1, .suspended t s =>
      match expired now t.frames with
      | some (p, frames) => lapse now fuel (advance now p frames s)
      | none => .suspended t s
  | _, progress => progress

def run (fuel now : Nat) (p : Proc σ α) (frames : List (Frame σ α)) (s : σ) : Progress σ α :=
  lapse now fuel (advance now p frames s)

def poll (fuel now : Nat) (s : σ) (t : Thread σ α) : Progress σ α :=
  match tripped s t.frames with
  | some (p, frames) => run fuel now p frames s
  | none =>
      match released now s t.point with
      | some p => run fuel now p t.frames s
      | none =>
          match expired now t.frames with
          | some (p, frames) => run fuel now p frames s
          | none => .suspended t s

/-- The times at which the thread has to be woken. -/
def deadlines (t : Thread σ α) : List Nat :=
  let brackets := t.frames.filterMap fun
    | .within deadline _ => some deadline
    | .unless .. => none
  match t.point with
  | .sleeping deadline _ => deadline :: brackets
  | _ => brackets

end Thread

end AgentSessions.Simulation
