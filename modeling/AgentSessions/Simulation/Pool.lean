import AgentSessions.Simulation.Thread

/-!
# A pool of threads

Many threads share one state and one clock, and one of them runs at a time. Ready threads run in
the order in which they became ready; when none is ready, the clock jumps to the next deadline. A
thread carries a label; when its process ends, the `Program` of the pool takes the label and the
ending, changes the state, and may give the thread a new label and process to go on with.

`run` executes one more process in the foreground until it ends. It is polled before the others
when it starts and when the clock has jumped, and otherwise when no thread is ready.
-/

set_option autoImplicit false

namespace AgentSessions.Simulation

/-- How the process of a thread ended. -/
inductive Ending (α : Type) where
  | returned (a : α)
  | panicked
  | dropped

/-- What the threads of a pool do at the end of their processes, and the threads that the state
wants started. -/
structure Program (σ L α : Type) where
  resume : (now : Nat) → L → Ending α → σ → σ × Option (L × Proc σ α)
  started : σ → List (L × Proc σ α) × σ

structure Slot (σ L α : Type) where
  label : L
  thread : Thread σ α
  aborted : Bool

/-- Threads over one state. -/
structure Pool (σ L α : Type) where
  world : σ
  now : Nat
  ready : List (Slot σ L α)
  asleep : List (Slot σ L α)

namespace Pool

variable {σ L α β : Type}

def ofWorld (world : σ) : Pool σ L α := ⟨world, 0, [], []⟩

/-- Moves the threads that can go on behind the ready ones, and starts new threads behind them. -/
def settle (pool : Pool σ L α) (prog : Program σ L α) : Pool σ L α :=
  let (fresh, world) := prog.started pool.world
  let woken := pool.asleep.filter fun slot => slot.thread.wakeable pool.now world
  let asleep := pool.asleep.filter fun slot => !slot.thread.wakeable pool.now world
  { pool with
    world := world
    ready := pool.ready ++ woken ++ fresh.map fun (label, p) => ⟨label, .ofProc p, false⟩
    asleep := asleep }

/-- Goes on with the program of a thread whose process has ended, until it has to wait or ends. -/
def finish (prog : Program σ L α) (now : Nat) :
    (fuel : Nat) → L → Ending α → σ → σ × Option (Slot σ L α)
  | 0, _, _, s => (s, none)
  | fuel + 1, label, ending, s =>
      match prog.resume now label ending s with
      | (s, none) => (s, none)
      | (s, some (label, p)) =>
          match Thread.run fuel now p [] s with
          | .finished a s => finish prog now fuel label (.returned a) s
          | .panicked s => finish prog now fuel label .panicked s
          | .suspended t s => (s, some ⟨label, t, false⟩)

/-- Runs the first ready thread. -/
def step (prog : Program σ L α) (fuel : Nat) (pool : Pool σ L α) : Pool σ L α :=
  match pool.ready with
  | [] => pool
  | slot :: rest =>
      let (world, left) :=
        if slot.aborted then (finish prog pool.now fuel slot.label .dropped pool.world)
        else
          match slot.thread.poll fuel pool.now pool.world with
          | .finished a s => finish prog pool.now fuel slot.label (.returned a) s
          | .panicked s => finish prog pool.now fuel slot.label .panicked s
          | .suspended t s => (s, some ⟨slot.label, t, false⟩)
      settle { pool with world := world, ready := rest, asleep := pool.asleep ++ left.toList } prog

/-- The next time at which a thread has to be woken. -/
def nextDeadline (main : Thread σ β) (pool : Pool σ L α) : Option Nat :=
  ((pool.asleep.flatMap fun slot => slot.thread.deadlines) ++ main.deadlines).min?

/-- How the foreground process ended; `none` when it waits for something that cannot come. -/
abbrev Outcome (β : Type) := Option (Ending β)

mutual

/-- Polls the foreground process and goes on. -/
def pollMain (prog : Program σ L α) : (fuel : Nat) → Thread σ β → Pool σ L α →
    Outcome β × Pool σ L α
  | 0, _, pool => (none, pool)
  | fuel + 1, main, pool =>
      match main.poll fuel pool.now pool.world with
      | .finished b s => (some (.returned b), { pool with world := s })
      | .panicked s => (some .panicked, { pool with world := s })
      | .suspended main s => drive prog fuel main (settle { pool with world := s } prog)

/-- Runs the ready threads, then the foreground process, then lets time pass. -/
def drive (prog : Program σ L α) : (fuel : Nat) → Thread σ β → Pool σ L α →
    Outcome β × Pool σ L α
  | 0, _, pool => (none, pool)
  | fuel + 1, main, pool =>
      if !pool.ready.isEmpty then drive prog fuel main (pool.step prog (fuel + 1))
      else if main.wakeable pool.now pool.world then pollMain prog fuel main pool
      else
        match pool.nextDeadline main with
        | none => (none, pool)
        | some deadline =>
            let pool := settle { pool with now := max pool.now deadline } prog
            if main.wakeable pool.now pool.world then pollMain prog fuel main pool
            else drive prog fuel main pool

end

/-- Runs a process in the foreground. The `fuel` bounds the number of polls. -/
def run (prog : Program σ L α) (fuel : Nat) (p : Proc σ β) (pool : Pool σ L α) :
    Outcome β × Pool σ L α :=
  match Thread.run fuel pool.now p [] pool.world with
  | .finished b s => (some (.returned b), settle { pool with world := s } prog)
  | .panicked s => (some .panicked, settle { pool with world := s } prog)
  | .suspended main s => drive prog fuel main (settle { pool with world := s } prog)

def spawn (label : L) (p : Proc σ α) (pool : Pool σ L α) : Pool σ L α :=
  { pool with ready := pool.ready ++ [⟨label, .ofProc p, false⟩] }

/-- Abandons the threads whose label passes the test; each notices when it is its turn. -/
def abort (test : L → Bool) (pool : Pool σ L α) : Pool σ L α :=
  let mark (slot : Slot σ L α) : Slot σ L α :=
    if test slot.label then { slot with aborted := true } else slot
  { pool with
    ready := pool.ready.map mark ++ (pool.asleep.filter fun slot => test slot.label).map mark
    asleep := pool.asleep.filter fun slot => !test slot.label }

end Pool

/-! ## A process on its own -/

def Program.idle (σ : Type) : Program σ Unit Unit :=
  ⟨fun _ _ _ s => (s, none), fun s => ([], s)⟩

/-- Runs a process with nothing beside it. -/
def runAlone {σ β : Type} (fuel : Nat) (p : Proc σ β) (s : σ) : Option (Ending β) × σ :=
  let (outcome, pool) := Pool.run (Program.idle σ) fuel p (Pool.ofWorld s)
  (outcome, pool.world)

end AgentSessions.Simulation
