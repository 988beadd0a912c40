import AgentSessions.Orchestration.Office

/-!
# Using an office

What somebody in the foreground can do with an office while its threads work in the background. An
operation that waits lets them work; one that does not wait leaves them where they are.
-/

set_option autoImplicit false

namespace AgentSessions

open Simulation (Proc Pool)

/-- An office at work. -/
abbrev OfficePool (η : Type) := Pool (World η) Work Answer

namespace Office

variable {η : Type}

/-- The bound on the number of polls in one operation. -/
def patience : Nat := 1000000

/-- Runs a process in the foreground; `none` when it does not come to an end. -/
def await {β : Type} (o : Office η) (p : Act η β) (pool : OfficePool η) :
    Option β × OfficePool η :=
  match Pool.run o.program patience p pool with
  | (some (.returned b), pool) => (some b, pool)
  | (_, pool) => (none, pool)

/-- Takes an activity to its end in the foreground. -/
def follow (o : Office η) : (fuel : Nat) → Activity → Act η Answer → OfficePool η →
    Report × OfficePool η
  | 0, _, _, pool => (.cutShort, pool)
  | fuel + 1, a, p, pool =>
      match o.await p pool with
      | (none, pool) => (.cutShort, { pool with world := abandon a pool.world })
      | (some answer, pool) =>
          match advance a answer pool.world with
          | (.goesOn a job, w) => follow o fuel a (o.perform job) { pool with world := w }
          | (.ended report, w) => (report, { pool with world := w })

/-- Follows an activity from the loading of its session on. -/
def followFrom (o : Office η) (a : Activity) (pool : OfficePool η) : Report × OfficePool η :=
  o.follow patience a (o.perform (.load a.session)) pool

def run (o : Office η) (p : Incoming) (pool : OfficePool η) : Report × OfficePool η :=
  match receive p pool.now pool.world with
  | (.replied result, w) => (.replied result, { pool with world := w })
  | (.runs a, w) => o.followFrom a { pool with world := w }

def spawn (o : Office η) (p : Incoming) (ticket : Nat) (pool : OfficePool η) : OfficePool η :=
  (pool.settle o.program).spawn (.arrival p ticket) (.done .ready)

def holds (ticket : Nat) : Work → Bool
  | .arrival _ n => n == ticket
  | .session _ n => n == some ticket
  | .body _ _ => false
  | .errand => false

/-- Abandons the work that has a ticket. -/
def abort (ticket : Nat) (pool : OfficePool η) : OfficePool η :=
  pool.abort (holds ticket)

def tripLater (token : Token) (delayMs : Nat) (pool : OfficePool η) : OfficePool η :=
  pool.spawn .errand do
    Proc.delay delayMs
    Act.trip token
    pure .ready

def join (o : Office η) (ticket : Nat) (pool : OfficePool η) : Option Report × OfficePool η :=
  o.await
    (do
      Proc.waitFor fun w => w.reports.any fun r => r.1 == ticket
      let w ← Proc.get
      pure (((w.reports.find? fun r => r.1 == ticket).map (·.2)).getD .cutShort))
    pool

/-- Wipes the history of a session on which nobody is at work. -/
def wipe (o : Office η) (id : SessionId) (pool : OfficePool η) : Report × OfficePool η :=
  match pool.world.desk.lease? id with
  | none => (.wiped (.error (.busy id)), pool)
  | some desk => o.followFrom (.wiper id) { pool with world := pool.world.putDesk desk }

def load (o : Office η) (id : SessionId) :
    Act η (Except RunError (Option Snapshot)) :=
  Except.mapError RunError.store <$> o.collaborators.load id

/-- Cancels the run of a session; tells whether there is one. -/
def cancel (id : SessionId) (w : World η) : Bool × World η :=
  match w.desk.running? id with
  | some token => (true, w.trip token)
  | none => (false, w)

def shutdown (pool : OfficePool η) (w : World η) : World η :=
  let w := w.tripAll w.desk.active.values
  let (tokens, board) := w.board.shutdown (World.instantAt pool.now)
  (w.putBoard pool.now board).tripAll tokens

end Office

end AgentSessions
