import AgentSessions.Orchestration.Activity
import AgentSessions.Proofs.Queue.Entries

/-!
# What a step does at the desk

The operations of the desk and the steps of activities, each reduced once to what it can do: who
holds the lease of a session afterwards, what waits for it, and which drains are to be started.

Two looks at the backlog turn out to find nothing within one step: the one after a prompt was
queued, because the session is busy, and the one after a lease was given up, because the backlog was
empty just before. So a lease ends in one of two ways (`Activity.Leaves`), and an activity goes on
or ends in one of four (`Activity.Moves`).
-/

set_option autoImplicit false

namespace AgentSessions

namespace Desk

/-! ## Looks at the backlog -/

theorem kick_of_waiting_nil {d : Desk} {id : SessionId} (h : d.queue.waiting id = []) :
    d.kick id = d := by
  rw [kick, if_pos (by rw [QueueManager.waitingCount, h]; rfl)]

theorem kick_of_busy {d : Desk} {id : SessionId} (h : d.queue.isBusy id = true) :
    d.kick id = d := by
  have hlease : d.lease? id = none := by
    rw [lease?, QueueManager.acquire?_eq, if_pos h]
    rfl
  rw [kick, hlease]
  split <;> rfl

/-! ## Giving up a lease -/

theorem handOff_eq (d : Desk) (id : SessionId) :
    d.handOff id = if d.queue.waiting id = [] then d.release id else d.handToDrain id := by
  rw [handOff, QueueManager.waitingCount]
  by_cases h : d.queue.waiting id = []
  · rw [if_pos h, h, List.length_nil, if_pos rfl,
      kick_of_waiting_nil ((d.queue.waiting_release id id).trans h)]
  · rw [if_neg h, if_neg (by simpa using h)]

theorem next_of_waiting_nil {d : Desk} {id : SessionId} (h : d.queue.waiting id = []) :
    d.next id = (none, d.release id) := by
  rw [next, QueueManager.dequeue_eq_none.mpr h]
  exact congrArg (Prod.mk none) (kick_of_waiting_nil ((d.queue.waiting_release id id).trans h))

/-- The desk when the prompt at the head of a backlog was taken. -/
def afterTaking (d : Desk) (id : SessionId) : Desk :=
  { d with queue := d.queue.put id { d.queue.entry id with backlog := (d.queue.waiting id).tail } }

theorem isBusy_afterTaking (d : Desk) (id id' : SessionId) :
    (d.afterTaking id).queue.isBusy id' = d.queue.isBusy id' := by
  refine QueueManager.isBusy_put_of_eq ?_ id'
  rfl

theorem waiting_afterTaking (d : Desk) (id id' : SessionId) :
    (d.afterTaking id).queue.waiting id' =
      if id' = id then (d.queue.waiting id).tail else d.queue.waiting id' := by
  rw [afterTaking, QueueManager.waiting_put]

theorem next_of_waiting_cons {d : Desk} {id : SessionId} {m : QueuedMessage}
    {rest : List QueuedMessage} (h : d.queue.waiting id = m :: rest) :
    d.next id = (some m, d.afterTaking id) := by
  have hdeq : d.queue.dequeue id =
      some (m, d.queue.put id { d.queue.entry id with backlog := rest }) := by
    rw [QueueManager.dequeue_eq, h]
  rw [next, hdeq, afterTaking, h]
  rfl

/-! ## A prompt that comes in -/

/-- The desk when the lease of a session was taken. -/
def leased (d : Desk) (id : SessionId) : Desk :=
  { d with queue := d.queue.put id { d.queue.entry id with busy := true } }

/-- The desk when a message was put into its backlog. -/
def queueing (d : Desk) (m : QueuedMessage) : Desk :=
  { d with
    queue := d.queue.put m.sessionId
      { d.queue.entry m.sessionId with
        backlog := QueueManager.insertByPriority m (d.queue.entry m.sessionId).backlog } }

theorem isBusy_leased (d : Desk) (id id' : SessionId) :
    (d.leased id).queue.isBusy id' = if id' = id then true else d.queue.isBusy id' := by
  rw [leased, QueueManager.isBusy_put]

theorem waiting_leased (d : Desk) (id id' : SessionId) :
    (d.leased id).queue.waiting id' = d.queue.waiting id' := by
  refine QueueManager.waiting_put_of_eq ?_ id'
  rfl

theorem isBusy_queueing (d : Desk) (m : QueuedMessage) (id : SessionId) :
    (d.queueing m).queue.isBusy id = d.queue.isBusy id := by
  refine QueueManager.isBusy_put_of_eq ?_ id
  rfl

theorem waiting_queueing (d : Desk) (m : QueuedMessage) (id : SessionId) :
    (d.queueing m).queue.waiting id =
      if id = m.sessionId then QueueManager.insertByPriority m (d.queue.waiting id)
      else d.queue.waiting id := by
  rw [queueing, QueueManager.waiting_put]
  split
  · rename_i h
    rw [h]
    rfl
  · rfl

theorem lease?_eq (d : Desk) (id : SessionId) :
    d.lease? id = if d.queue.isBusy id then none else some (d.leased id) := by
  rw [lease?, QueueManager.acquire?_eq]
  split <;> rfl

/-- A prompt that comes in runs when its session is idle; else it waits if it may and there is room.
-/
theorem receive_eq (d : Desk) (m : QueuedMessage) (queueIfBusy : Bool) :
    d.receive m queueIfBusy =
      if d.queue.isBusy m.sessionId then
        if !queueIfBusy then (.busy, d)
        else if d.queue.isFull m.sessionId then
          (.full (.full m.sessionId (d.queue.maxBacklog.getD 0)), d)
        else (.queued m ((d.queueing m).queue.waitingCount m.sessionId), d.queueing m)
      else (.granted, d.leased m.sessionId) := by
  rw [receive, lease?_eq]
  by_cases hbusy : d.queue.isBusy m.sessionId = true
  · rw [if_pos hbusy, if_pos hbusy]
    cases queueIfBusy with
    | false => rfl
    | true =>
        rw [if_neg (by decide), if_neg (by decide), QueueManager.enqueue_eq]
        by_cases hfull : d.queue.isFull m.sessionId = true
        · rw [if_pos hfull, if_pos hfull]
        · have hbusy' : (d.queueing m).queue.isBusy m.sessionId = true := by
            rw [isBusy_queueing]
            exact hbusy
          rw [if_neg hfull, if_neg hfull]
          show (_, (d.queueing m).kick m.sessionId) = _
          rw [kick_of_busy hbusy']
          rfl
  · rw [if_neg hbusy, if_neg hbusy]

/-- What becomes of a prompt that comes in, and the desk afterwards. -/
inductive Receives (d : Desk) (m : QueuedMessage) : Admission × Desk → Prop where
  /-- Nobody is at work on the session. -/
  | granted : d.queue.isBusy m.sessionId = false →
      Receives d m (.granted, d.leased m.sessionId)
  /-- Somebody is, and the prompt may not wait. -/
  | busy : d.queue.isBusy m.sessionId = true → Receives d m (.busy, d)
  /-- Somebody is, and there is no room. -/
  | full (e : QueueError) : d.queue.isBusy m.sessionId = true → Receives d m (.full e, d)
  /-- Somebody is, and the prompt waits. -/
  | queued (count : Nat) : d.queue.isBusy m.sessionId = true →
      Receives d m (.queued m count, d.queueing m)

theorem receives (d : Desk) (m : QueuedMessage) (queueIfBusy : Bool) :
    d.Receives m (d.receive m queueIfBusy) := by
  rw [receive_eq]
  by_cases hbusy : d.queue.isBusy m.sessionId = true
  · rw [if_pos hbusy]
    split
    · exact .busy hbusy
    · split
      · exact .full _ hbusy
      · exact .queued _ hbusy
  · rw [if_neg hbusy]
    exact .granted (Bool.eq_false_iff.mpr hbusy)

/-- A prompt runs at once exactly when nobody is at work on its session. -/
theorem receive_granted_iff (d : Desk) (m : QueuedMessage) (queueIfBusy : Bool) :
    (d.receive m queueIfBusy).1 = .granted ↔ d.queue.isBusy m.sessionId = false := by
  have hreceives := d.receives m queueIfBusy
  generalize d.receive m queueIfBusy = result at hreceives
  cases hreceives with
  | granted hidle => exact ⟨fun _ => hidle, fun _ => rfl⟩
  | busy hbusy | full _ hbusy | queued _ hbusy =>
      exact ⟨fun hgranted => (nomatch hgranted), fun hidle => by rw [hbusy] at hidle; cases hidle⟩

end Desk

namespace Activity

/-! ## The steps of an activity -/

@[simp] theorem dropEngine_queue (a : Activity) (d : Desk) : (a.dropEngine d).queue = d.queue := by
  unfold dropEngine
  split <;> rfl

@[simp] theorem dropEngine_drains (a : Activity) (d : Desk) :
    (a.dropEngine d).drains = d.drains := by
  unfold dropEngine
  split <;> rfl

/-- How an activity leaves the desk: with its lease given up when nothing waits, and else with the
lease handed to a drain. -/
inductive Leaves (a : Activity) (d : Desk) : Desk → Prop where
  | releases : d.queue.waiting a.session = [] →
      Leaves a d ((a.dropEngine d).release a.session)
  | handsOver : d.queue.waiting a.session ≠ [] →
      Leaves a d ((a.dropEngine d).handToDrain a.session)

theorem leaves_handOff (a : Activity) (d : Desk) :
    a.Leaves d ((a.dropEngine d).handOff a.session) := by
  rw [Desk.handOff_eq, dropEngine_queue]
  by_cases h : d.queue.waiting a.session = []
  · rw [if_pos h]
    exact .releases h
  · rw [if_neg h]
    exact .handsOver h

theorem leaves_abandon {a : Activity} (h : a.worker ≠ .drain) (d : Desk) :
    a.Leaves d (a.abandon d) := by
  have hab : a.abandon d = (a.dropEngine d).handOff a.session := by
    unfold abandon
    cases hw : a.worker with
    | drain => exact absurd hw h
    | direct => rfl
    | wiper => rfl
  rw [hab]
  exact a.leaves_handOff d

theorem Leaves.waiting {a : Activity} {d d' : Desk} (h : a.Leaves d d') (id : SessionId) :
    d'.queue.waiting id = d.queue.waiting id := by
  cases h with
  | releases =>
      show ((a.dropEngine d).queue.release a.session).waiting id = _
      rw [QueueManager.waiting_release, dropEngine_queue]
  | handsOver =>
      show (a.dropEngine d).queue.waiting id = _
      rw [dropEngine_queue]

/-- How an activity goes on when it gets what it waited for: an engine runs or wipes the session
that was loaded, a drain takes the prompt at the head of the backlog, or the activity ends. -/
inductive Moves (a : Activity) (fresh : Token) (answer : Answer) (d : Desk) :
    Course × Desk → Prop where
  | runs {prompt : String} {snapshot : Option Snapshot} :
      a.stage = .loading prompt → answer = .loaded (.ok snapshot) →
      Moves a fresh answer d
        (.goesOn { a with stage := .running fresh }
          (.run (sessionOf a.session snapshot) prompt fresh), d.register a.session fresh)
  | wipes {snapshot : Option Snapshot} :
      a.stage = .loadingToWipe → answer = .loaded (.ok snapshot) →
      Moves a fresh answer d
        (.goesOn { a with stage := .wiping } (.wipe (sessionOf a.session snapshot)), d)
  | takes {m : QueuedMessage} {rest : List QueuedMessage} :
      a.worker = .drain → d.queue.waiting a.session = m :: rest →
      Moves a fresh answer d (a.load m.prompt, (a.dropEngine d).afterTaking a.session)
  | ends {d' : Desk} (report : Report) : a.Leaves d d' →
      Moves a fresh answer d (.ended report, d')

theorem moves_takeNext {a : Activity} (h : a.worker = .drain) (fresh : Token) (answer : Answer)
    (d : Desk) : a.Moves fresh answer d (a.takeNext (a.dropEngine d)) := by
  rw [takeNext]
  cases hw : d.queue.waiting a.session with
  | nil =>
      have hn : (a.dropEngine d).queue.waiting a.session = [] := by
        rw [dropEngine_queue, hw]
      rw [Desk.next_of_waiting_nil hn]
      exact .ends .drained (.releases hw)
  | cons m rest =>
      have hn : (a.dropEngine d).queue.waiting a.session = m :: rest := by
        rw [dropEngine_queue, hw]
      rw [Desk.next_of_waiting_cons hn]
      exact .takes h hw

theorem moves_afterPrompt (a : Activity) (fresh : Token) (answer : Answer)
    (result : Except RunError RunSummary) (d : Desk) :
    a.Moves fresh answer d (a.afterPrompt result (a.dropEngine d)) := by
  unfold afterPrompt
  cases hw : a.worker with
  | drain => exact moves_takeNext hw fresh answer d
  | direct => exact .ends _ (a.leaves_handOff d)
  | wiper => exact .ends _ (a.leaves_handOff d)

end Activity

end AgentSessions
