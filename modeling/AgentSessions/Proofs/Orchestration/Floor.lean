import AgentSessions.Engine.Run
import AgentSessions.Orchestration.Activity
import AgentSessions.Proofs.Dialogue.Paths

/-!
# The floor

Everything that goes on around the desk at once: the desk, a store of snapshots, and the activities
under way, of any number of sessions. `Floor.Step` is one step of one of them, from one wait to the
next, and `Floor.Runs` any number of steps in any order. Nothing is said of who steps when, of what
an engine is answered, or of whether the store fails, so a statement about all runs covers every
interleaving and every behaviour of the surroundings. A wait can be abandoned at any time, except by
a drain, which nobody can reach.

The store does what it does at one moment: a look-up finds what is stored then, and a save that
succeeds replaces it then. A save that fails changes nothing. Sessions of tasks are written by
others as well (`isChild`).

Each step notes in a log what a caller could see of it.
-/

set_option autoImplicit false

namespace AgentSessions

/-! ## What is under way -/

/-- How far that for which an activity waits has come. -/
inductive Pending where
  /-- Nothing is missing but its turn. -/
  | turn
  /-- The store has yet to look a session up. -/
  | load
  /-- The store has looked the session up. -/
  | found (result : Except StoreError (Option Snapshot))
  /-- An engine is at work; `rest` is what is left of its work. -/
  | engine (token : Token) (rest : Dialogue Answer)

namespace Pending

/-- What the activity gets, once it is there. -/
def answer? : Pending → Option Answer
  | turn => some .ready
  | load => none
  | found result => some (.loaded result)
  | engine _ (.done answer) => some answer
  | engine _ (.ask ..) => none

/-- The engine at work. -/
def engine? : Pending → Option Token
  | engine token _ => some token
  | _ => none

end Pending

/-- The wait for a job. The engine of a job that has one is known by `token`. -/
def Job.pending (setup : Engine.Setup) (token : Token) : Job → Pending
  | .load _ => .load
  | .run session prompt _ => .engine token do
      let (_, result) ← Engine.run setup session prompt
      pure (.ran result)
  | .wipe session => .engine token do
      let (_, result) ← Engine.clear session
      pure (.wiped result)

/-- An activity and its wait. -/
structure Underway where
  activity : Activity
  pending : Pending

/-- What is under way after a step of an activity. -/
def Course.underway (setup : Engine.Setup) (token : Token) : Course → List Underway
  | .goesOn next job => [⟨next, job.pending setup token⟩]
  | .ended _ => []

/-! ## The log -/

/-- What can be seen of a step. -/
inductive Entry where
  /-- A prompt came in, and this became of it at once. -/
  | came (m : QueuedMessage) (admission : Admission)
  /-- A prompt was handed over to be run, by a worker of this kind. -/
  | handed (m : QueuedMessage) (worker : Worker)
  /-- A prompt that waited was dropped. -/
  | dropped (m : QueuedMessage)
  /-- An engine was made for a session as it was loaded, to run a prompt, or else to wipe the
  history. -/
  | opened (engine : Token) (session : Session) (prompt : Option String)
  /-- An engine saved its session. -/
  | saved (engine : Token) (id : SessionId) (snapshot : Snapshot)

/-- What is noted of a step of an activity at the desk `d`: a prompt that was taken from the
backlog, or the engine that was made. -/
def Course.entries (token : Token) (d : Desk) : Course → List Entry
  | .goesOn next (.load _) =>
      ((d.queue.waiting next.session).take 1).map fun m => .handed m next.worker
  | .goesOn _ (.run session prompt _) => [.opened token session (some prompt)]
  | .goesOn _ (.wipe session) => [.opened token session none]
  | .ended _ => []

/-- What is noted of a prompt that came in. -/
def Admission.entries (m : QueuedMessage) (admission : Admission) : List Entry :=
  match admission with
  | .granted => [.came m .granted, .handed m .direct]
  | admission => [.came m admission]

/-! ## The floor -/

/-- The desk, the store and what is under way. -/
structure Floor where
  desk : Desk
  store : SessionId → Option Snapshot
  /-- The number of the next token. -/
  nextToken : Nat
  tripped : List Token
  underway : List Underway

namespace Floor

/-- Nobody is at work. -/
def opening (maxBacklog : Option Nat) (store : SessionId → Option Snapshot) : Floor :=
  ⟨.empty maxBacklog, store, 0, [], []⟩

/-- Starts the drains to which leases were handed. -/
def settle (f : Floor) : Floor :=
  { f with
    desk := { f.desk with drains := [] }
    underway := f.underway ++ f.desk.drains.map fun id => ⟨.drain id, .turn⟩ }

/-- The floor when a session was saved. -/
def keep (f : Floor) (id : SessionId) (snapshot : Snapshot) : Floor :=
  { f with store := fun id' => if id' = id then some snapshot else f.store id' }

/-- What a prompt that is admitted starts. -/
def admitted (m : QueuedMessage) : Admission → List Underway
  | .granted => [⟨.direct m.sessionId m.prompt, .load⟩]
  | _ => []

/-- A prompt comes in. -/
def receive (f : Floor) (m : QueuedMessage) (queueIfBusy : Bool) : List Entry × Floor :=
  let (admission, desk) := f.desk.receive m queueIfBusy
  (admission.entries m,
    settle { f with desk := desk, underway := f.underway ++ admitted m admission })

/-- Somebody wants the history of a session wiped. -/
def wipe (f : Floor) (id : SessionId) : Floor :=
  match f.desk.lease? id with
  | none => f
  | some desk => { f with desk := desk, underway := f.underway ++ [⟨.wiper id, .load⟩] }

/-- Somebody drops what waits for a session. -/
def clearBacklog (f : Floor) (id : SessionId) : List Entry × Floor :=
  ((f.desk.queue.waiting id).map .dropped, { f with desk := f.desk.clearBacklog id })

/-- Somebody cancels the run of a session. -/
def cancel (f : Floor) (id : SessionId) : Floor :=
  { f with tripped := (f.desk.running? id).toList ++ f.tripped }

/-- An activity gets what it waited for; `others` is what else is under way, before and after it. -/
def advance (setup : Engine.Setup) (f : Floor) (a : Activity) (answer : Answer)
    (others : List Underway × List Underway) : List Entry × Floor :=
  let token : Token := ⟨f.nextToken⟩
  let (course, desk) := a.advance token answer f.desk
  (course.entries token f.desk,
    settle { f with
      desk := desk
      nextToken := f.nextToken + 1
      underway := others.1 ++ course.underway setup token ++ others.2 })

/-- The wait of an activity is abandoned. -/
def abandon (f : Floor) (a : Activity) (others : List Underway × List Underway) : Floor :=
  settle { f with desk := a.abandon f.desk, underway := others.1 ++ others.2 }

/-- An engine gets an answer. -/
def answered (f : Floor) (engine : Token) (id : SessionId) :
    (question : Engine.Ask) → question.Answer → List Entry × Floor
  | .save snapshot, .ok () => ([.saved engine id snapshot], f.keep id snapshot)
  | _, _ => ([], f)

/-! ## Steps and runs -/

/-- One step on the floor, with what is noted of it. -/
inductive Step (setup : Engine.Setup) (isChild : SessionId → Prop) :
    Floor → List Entry → Floor → Prop where
  | receives (f : Floor) (m : QueuedMessage) (queueIfBusy : Bool) :
      Step setup isChild f (f.receive m queueIfBusy).1 (f.receive m queueIfBusy).2
  | wipes (f : Floor) (id : SessionId) : Step setup isChild f [] (f.wipe id)
  | clears (f : Floor) (id : SessionId) :
      Step setup isChild f (f.clearBacklog id).1 (f.clearBacklog id).2
  | cancels (f : Floor) (id : SessionId) : Step setup isChild f [] (f.cancel id)
  /-- The store looks a session up, or fails. -/
  | looksUp {f : Floor} {a : Activity} {before after : List Underway}
      (result : Except StoreError (Option Snapshot)) :
      f.underway = before ++ ⟨a, .load⟩ :: after →
      (∀ snapshot, result = .ok snapshot → snapshot = f.store a.session) →
      Step setup isChild f [] { f with underway := before ++ ⟨a, .found result⟩ :: after }
  /-- The question of an engine is answered. -/
  | answers {f : Floor} {a : Activity} {engine : Token} {question : Engine.Ask}
      {next : question.Answer → Dialogue Answer} {before after : List Underway}
      (answer : question.Answer) :
      f.underway = before ++ ⟨a, .engine engine (.ask question next)⟩ :: after →
      Step setup isChild f (f.answered engine a.session question answer).1
        { (f.answered engine a.session question answer).2 with
          underway := before ++ ⟨a, .engine engine (next answer)⟩ :: after }
  | advances {f : Floor} {u : Underway} {before after : List Underway} {answer : Answer} :
      f.underway = before ++ u :: after → u.pending.answer? = some answer →
      Step setup isChild f (f.advance setup u.activity answer (before, after)).1
        (f.advance setup u.activity answer (before, after)).2
  | abandons {f : Floor} {u : Underway} {before after : List Underway} :
      f.underway = before ++ u :: after → u.activity.worker ≠ .drain →
      Step setup isChild f [] (f.abandon u.activity (before, after))
  /-- Somebody else saves the session of a task. -/
  | childSaves (f : Floor) {id : SessionId} (snapshot : Snapshot) : isChild id →
      Step setup isChild f [] (f.keep id snapshot)

/-- Any number of steps, with all that is noted of them. -/
inductive Runs (setup : Engine.Setup) (isChild : SessionId → Prop) (start : Floor) :
    List Entry → Floor → Prop where
  | start : Runs setup isChild start [] start
  | step {log entries : List Entry} {f f' : Floor} :
      Runs setup isChild start log f → Step setup isChild f entries f' →
      Runs setup isChild start (log ++ entries) f'

end Floor

end AgentSessions
