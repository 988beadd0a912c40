import AgentSessions.Orchestration.Desk
import AgentSessions.Session.Basic

/-!
# Activities on sessions

A piece of work on a session goes through stages, and between two stages it waits for something: for
the session to be loaded, for the engine to run, for an empty session to be saved. What it does in
between is one step on the desk, which nothing can come between: `advance` takes the stage and what
was waited for to the desk as it is then, and to what is waited for next. An activity that panics or
is abandoned while it waits leaves the desk by `abandon`.

There are three kinds of workers. One runs a prompt directly, one wipes the history, and a drain
works off a backlog. The first two hand their lease off when they are done, however that comes; a
drain goes on until nothing waits.
-/

set_option autoImplicit false

namespace AgentSessions

/-- Who works on a session. -/
inductive Worker where
  | direct
  | wiper
  | drain
  deriving DecidableEq, Repr

/-- What an activity waits for. -/
inductive Stage where
  | opening
  | loading (prompt : String)
  | running (token : Token)
  | loadingToWipe
  | wiping
  deriving DecidableEq, Repr

/-- A piece of work on a session. -/
structure Activity where
  session : SessionId
  worker : Worker
  stage : Stage
  deriving DecidableEq, Repr

/-- What an activity waited for. -/
inductive Answer where
  | ready
  | loaded (result : Except StoreError (Option Snapshot))
  | ran (result : Except RunError RunSummary)
  | wiped (result : Except RunError Unit)

/-- What an activity wants done. -/
inductive Job where
  | load (id : SessionId)
  | run (session : Session) (prompt : String) (token : Token)
  | wipe (session : Session)

/-- What an activity tells the one who asked for it. -/
inductive Report where
  | replied (result : Except RunError RunReply)
  | wiped (result : Except RunError Unit)
  /-- A drain has nobody to tell. -/
  | drained
  /-- It panicked or was abandoned. -/
  | cutShort

/-- How an activity goes on. -/
inductive Course where
  | goesOn (next : Activity) (job : Job)
  | ended (report : Report)

namespace Activity

/-- The session with the snapshot that was loaded, or an empty one. -/
def sessionOf (id : SessionId) : Option Snapshot → Session
  | some s => .ofSnapshot id s
  | none => .empty id

def load (a : Activity) (prompt : String) : Course :=
  .goesOn { a with stage := .loading prompt } (.load a.session)

def direct (id : SessionId) (prompt : String) : Activity := ⟨id, .direct, .loading prompt⟩

def wiper (id : SessionId) : Activity := ⟨id, .wiper, .loadingToWipe⟩

def drain (id : SessionId) : Activity := ⟨id, .drain, .opening⟩

/-- A drain takes the next prompt, or ends. -/
def takeNext (a : Activity) (d : Desk) : Course × Desk :=
  match d.next a.session with
  | (some m, d) => (a.load m.prompt, d)
  | (none, d) => (.ended .drained, d)

def afterPrompt (a : Activity) (result : Except RunError RunSummary) (d : Desk) : Course × Desk :=
  match a.worker with
  | .drain => a.takeNext d
  | _ => (.ended (.replied (result.map .completed)), d.handOff a.session)

/-- The step of an activity when it gets what it waited for. `fresh` is a token that nobody has. An
answer to something else ends the activity without touching the desk. -/
def advance (a : Activity) (fresh : Token) (answer : Answer) (d : Desk) : Course × Desk :=
  match a.stage, answer with
  | .opening, .ready => a.takeNext d
  | .loading _, .loaded (.error e) => a.afterPrompt (.error (.store e)) d
  | .loading prompt, .loaded (.ok snapshot) =>
      (.goesOn { a with stage := .running fresh }
          (.run (sessionOf a.session snapshot) prompt fresh),
        d.register a.session fresh)
  | .running _, .ran result => a.afterPrompt result (d.unregister a.session)
  | .loadingToWipe, .loaded (.error e) =>
      (.ended (.wiped (.error (.store e))), d.handOff a.session)
  | .loadingToWipe, .loaded (.ok snapshot) =>
      (.goesOn { a with stage := .wiping } (.wipe (sessionOf a.session snapshot)), d)
  | .wiping, .wiped result => (.ended (.wiped result), d.handOff a.session)
  | _, _ => (.ended .drained, d)

def dropEngine (a : Activity) (d : Desk) : Desk :=
  match a.stage with
  | .running _ => d.unregister a.session
  | _ => d

/-- The desk after an activity that panicked or was abandoned while it waited. The lease of a direct
runner and of a wiper is handed off; a drain gives its lease up. -/
def abandon (a : Activity) (d : Desk) : Desk :=
  let d := a.dropEngine d
  match a.worker with
  | .drain => d.release a.session
  | _ => d.handOff a.session

end Activity

end AgentSessions
