import AgentSessions.Proofs.Orchestration.Elsewhere

/-!
# Desks and work alike

Two desks show the same of a session (`Desk.Mirrors`), and two pieces of work have come as far
(`Underway.Mirrors`), if they differ only in what says nothing about the session: the numbers of
tokens and of messages, and the clock as far as a view of time does not show it. What is set aside
is left out by `blur`. What is done at the desk for the session keeps two desks alike, and an
activity goes on alike at desks that are alike (`Course.Mirrors`).
-/

set_option autoImplicit false

namespace AgentSessions

/-! ## What is set aside -/

section

variable (view : Instant → Instant)

/-- The message without its number, and with its time as a view of time shows it. -/
def QueuedMessage.blur (m : QueuedMessage) : QueuedMessage :=
  { m with id := ⟨""⟩, createdAt := view m.createdAt }

def Admission.blur : Admission → Admission
  | .queued m count => .queued (m.blur view) count
  | admission => admission

/-- The entry without the numbers of messages and engines, and with its times as a view of time
shows them. -/
def Entry.blur : Entry → Entry
  | .came m admission => .came (m.blur view) (admission.blur view)
  | .handed m worker => .handed (m.blur view) worker
  | .dropped m => .dropped (m.blur view)
  | .opened _ session prompt => .opened ⟨0⟩ (session.retime view) prompt
  | .saved _ id snapshot => .saved ⟨0⟩ id (snapshot.retime view)

def Sight.blur : Sight → Sight
  | .noted e => .noted (e.blur view)
  | sight => sight

/-- The operation with a message without its number, at the time that a view of time shows. -/
def Floor.Op.blur : Floor.Op → Floor.Op
  | .receive m queueIfBusy => .receive (m.blur view) queueIfBusy
  | .goOn id now => .goOn id (view now)
  | op => op

theorem Floor.Op.session_blur (op : Floor.Op) : (op.blur view).session = op.session := by
  cases op <;> rfl

end

variable {view : Instant → Instant} {s : SessionId}

/-! ## At the desk -/

/-- The desk `e` shows of a session what `d` shows of it, with the messages blurred. -/
structure Desk.Mirrors (view : Instant → Instant) (s : SessionId) (d e : Desk) : Prop where
  busy : e.queue.isBusy s = d.queue.isBusy s
  waiting : e.queue.waiting s = (d.queue.waiting s).map (QueuedMessage.blur view)
  limit : e.queue.maxBacklog = d.queue.maxBacklog
  drains : e.drainsFor s = d.drainsFor s

namespace QueueManager

theorem insertByPriority_blur (m : QueuedMessage) (backlog : List QueuedMessage) :
    insertByPriority (m.blur view) (backlog.map (QueuedMessage.blur view)) =
      (insertByPriority m backlog).map (QueuedMessage.blur view) := by
  induction backlog with
  | nil => rfl
  | cons queued rest ih =>
      have hpriority : ∀ m : QueuedMessage, (m.blur view).priority = m.priority := fun _ => rfl
      rw [List.map_cons, insertByPriority, insertByPriority, hpriority, hpriority, ih]
      split <;> rfl

end QueueManager

namespace Desk.Mirrors

variable {d d' e e' : Desk}

/-- What is at the desk besides the queue and the drains shows nothing of a session. -/
theorem congr (h : d.Mirrors view s e) (hd : d'.queue = d.queue ∧ d'.drains = d.drains)
    (he : e'.queue = e.queue ∧ e'.drains = e.drains) : d'.Mirrors view s e' := by
  refine ⟨?_, ?_, ?_, ?_⟩
  · rw [hd.1, he.1, h.busy]
  · rw [hd.1, he.1, h.waiting]
  · rw [hd.1, he.1, h.limit]
  · rw [Desk.drainsFor_congr hd.2, Desk.drainsFor_congr he.2, h.drains]

theorem waiting_nil_iff (h : d.Mirrors view s e) :
    e.queue.waiting s = [] ↔ d.queue.waiting s = [] := by
  rw [h.waiting, List.map_eq_nil_iff]

theorem dropEngine (h : d.Mirrors view s e) (a b : Activity) :
    (a.dropEngine d).Mirrors view s (b.dropEngine e) :=
  h.congr ⟨a.dropEngine_queue d, a.dropEngine_drains d⟩
    ⟨b.dropEngine_queue e, b.dropEngine_drains e⟩

theorem release (h : d.Mirrors view s e) : (d.release s).Mirrors view s (e.release s) := by
  refine ⟨?_, ?_, ?_, h.drains⟩
  · show (e.queue.release s).isBusy s = (d.queue.release s).isBusy s
    rw [QueueManager.isBusy_release, QueueManager.isBusy_release, if_pos rfl, if_pos rfl]
  · show (e.queue.release s).waiting s = ((d.queue.release s).waiting s).map _
    rw [QueueManager.waiting_release, QueueManager.waiting_release, h.waiting]
  · show (e.queue.release s).maxBacklog = (d.queue.release s).maxBacklog
    rw [QueueManager.maxBacklog_release, QueueManager.maxBacklog_release, h.limit]

theorem handToDrain (h : d.Mirrors view s e) (other : SessionId) :
    (d.handToDrain other).Mirrors view s (e.handToDrain other) := by
  refine ⟨h.busy, h.waiting, h.limit, ?_⟩
  rw [Desk.drainsFor_handToDrain, Desk.drainsFor_handToDrain, h.drains]

theorem handOff (h : d.Mirrors view s e) : (d.handOff s).Mirrors view s (e.handOff s) := by
  rw [Desk.handOff_eq, Desk.handOff_eq]
  by_cases hnil : d.queue.waiting s = []
  · rw [if_pos hnil, if_pos (h.waiting_nil_iff.mpr hnil)]
    exact h.release
  · rw [if_neg hnil, if_neg fun hnil' => hnil (h.waiting_nil_iff.mp hnil')]
    exact h.handToDrain s

theorem afterTaking (h : d.Mirrors view s e) :
    (d.afterTaking s).Mirrors view s (e.afterTaking s) := by
  refine ⟨?_, ?_, h.limit, h.drains⟩
  · rw [Desk.isBusy_afterTaking, Desk.isBusy_afterTaking, h.busy]
  · rw [Desk.waiting_afterTaking, Desk.waiting_afterTaking, if_pos rfl, if_pos rfl, h.waiting,
      List.map_tail]

theorem leased (h : d.Mirrors view s e) : (d.leased s).Mirrors view s (e.leased s) := by
  refine ⟨?_, ?_, h.limit, h.drains⟩
  · rw [Desk.isBusy_leased, Desk.isBusy_leased, if_pos rfl, if_pos rfl]
  · rw [Desk.waiting_leased, Desk.waiting_leased, h.waiting]

theorem clearBacklog (h : d.Mirrors view s e) :
    (d.clearBacklog s).Mirrors view s (e.clearBacklog s) := by
  refine ⟨?_, ?_, h.limit, h.drains⟩
  · show (e.queue.clear s).isBusy s = (d.queue.clear s).isBusy s
    rw [QueueManager.isBusy_clear, QueueManager.isBusy_clear, h.busy]
  · show (e.queue.clear s).waiting s = ((d.queue.clear s).waiting s).map _
    rw [QueueManager.waiting_clear, QueueManager.waiting_clear, if_pos rfl, if_pos rfl]
    rfl

theorem queueing {m : QueuedMessage} (h : d.Mirrors view m.sessionId e) :
    (d.queueing m).Mirrors view m.sessionId (e.queueing (m.blur view)) := by
  refine ⟨?_, ?_, h.limit, h.drains⟩
  · rw [Desk.isBusy_queueing, Desk.isBusy_queueing, h.busy]
  · have hsession : (m.blur view).sessionId = m.sessionId := rfl
    rw [Desk.waiting_queueing, Desk.waiting_queueing, hsession, if_pos rfl, if_pos rfl, h.waiting,
      QueueManager.insertByPriority_blur]

/-- A prompt that comes in is admitted alike. -/
theorem receive {m : QueuedMessage} (h : d.Mirrors view m.sessionId e) (queueIfBusy : Bool) :
    (e.receive (m.blur view) queueIfBusy).1 = (d.receive m queueIfBusy).1.blur view ∧
      (d.receive m queueIfBusy).2.Mirrors view m.sessionId
        (e.receive (m.blur view) queueIfBusy).2 := by
  have hsession : (m.blur view).sessionId = m.sessionId := rfl
  have hfull : ∀ {d e : Desk}, d.Mirrors view m.sessionId e →
      e.queue.isFull m.sessionId = d.queue.isFull m.sessionId ∧
        e.queue.waitingCount m.sessionId = d.queue.waitingCount m.sessionId := by
    intro d e h
    have hcount : e.queue.waitingCount m.sessionId = d.queue.waitingCount m.sessionId := by
      rw [QueueManager.waitingCount, h.waiting, List.length_map, QueueManager.waitingCount]
    refine ⟨?_, hcount⟩
    rw [QueueManager.isFull, h.limit, hcount, QueueManager.isFull]
  rw [Desk.receive_eq, Desk.receive_eq, hsession, h.busy, (hfull h).1, h.limit,
    (hfull h.queueing).2]
  split
  · split
    · exact ⟨rfl, h⟩
    · split
      · exact ⟨rfl, h⟩
      · exact ⟨rfl, h.queueing⟩
  · exact ⟨rfl, h.leased⟩

end Desk.Mirrors

/-! ## Steps of activities -/

/-- The second activity goes on as the first one does. A fresh token `t` of the first is `t'` for
the second. -/
inductive Course.Mirrors (view : Instant → Instant) (s : SessionId) (t t' : Token) :
    Course → Course → Prop where
  | ended (report : Report) : Mirrors view s t t' (.ended report) (.ended report)
  | loads (worker : Worker) (prompt : String) :
      Mirrors view s t t' (.goesOn ⟨s, worker, .loading prompt⟩ (.load s))
        (.goesOn ⟨s, worker, .loading prompt⟩ (.load s))
  | runs (worker : Worker) (session : Session) (prompt : String) :
      Mirrors view s t t' (.goesOn ⟨s, worker, .running t⟩ (.run session prompt t))
        (.goesOn ⟨s, worker, .running t'⟩ (.run (session.retime view) prompt t'))
  | wipes (worker : Worker) (session : Session) :
      Mirrors view s t t' (.goesOn ⟨s, worker, .wiping⟩ (.wipe session))
        (.goesOn ⟨s, worker, .wiping⟩ (.wipe (session.retime view)))

/-- The work `v` has come as far as `u`, the tokens of their engines aside. -/
inductive Underway.Mirrors (view : Instant → Instant) : Underway → Underway → Prop where
  | opening (s : SessionId) : Mirrors view ⟨.drain s, .turn⟩ ⟨.drain s, .turn⟩
  | waits (a : Activity) : Mirrors view ⟨a, .load⟩ ⟨a, .load⟩
  | found (a : Activity) (result : Except StoreError (Option Snapshot)) :
      Mirrors view ⟨a, .found result⟩
        ⟨a, .found (result.map (Option.map (Snapshot.retime view)))⟩
  | runs (s : SessionId) (worker : Worker) (t t' : Token) {rest rest' : Dialogue Answer} :
      Dialogue.Retimes view id rest rest' →
      Mirrors view ⟨⟨s, worker, .running t⟩, .engine t rest⟩
        ⟨⟨s, worker, .running t'⟩, .engine t' rest'⟩
  | wipes (s : SessionId) (worker : Worker) (t t' : Token) {rest rest' : Dialogue Answer} :
      Dialogue.Retimes view id rest rest' →
      Mirrors view ⟨⟨s, worker, .wiping⟩, .engine t rest⟩
        ⟨⟨s, worker, .wiping⟩, .engine t' rest'⟩

section

variable {t t' : Token} {d e : Desk}

theorem Course.Mirrors.sights_eq {c c' : Course} (h : c.Mirrors view s t t' c') :
    c'.sights = c.sights := by
  cases h <;> rfl

/-- What is noted of the two is the same. A prompt that was taken is at the head of both backlogs.
-/
theorem Course.Mirrors.entries_eq {c c' : Course} (h : c.Mirrors view s t t' c')
    (hd : d.Mirrors view s e) :
    (c'.entries t' e).map (Entry.blur id) = (c.entries t d).map (Entry.blur view) := by
  cases h with
  | ended => rfl
  | runs worker session prompt =>
      show [Entry.opened _ ((session.retime view).retime id) _] = _
      rw [session_retime_id]
      rfl
  | wipes worker session =>
      show [Entry.opened _ ((session.retime view).retime id) _] = _
      rw [session_retime_id]
      rfl
  | loads worker prompt =>
      show (((e.queue.waiting s).take 1).map _).map _ = (((d.queue.waiting s).take 1).map _).map _
      rw [hd.waiting]
      cases d.queue.waiting s with
      | nil => rfl
      | cons m rest => rfl

theorem Course.Mirrors.underway {c c' : Course} (h : c.Mirrors view s t t' c')
    {setup : Engine.Setup} (hsetup : setup.Respects view) :
    List.Forall₂ (Underway.Mirrors view) (c.underway setup t) (c'.underway setup t') := by
  cases h with
  | ended => exact .nil
  | loads worker prompt => exact .cons (.waits _) .nil
  | runs worker session prompt =>
      refine .cons (.runs s worker t t' ?_) .nil
      exact (Engine.retimes_run hsetup session prompt).bind fun c => Dialogue.retimes_pure rfl
  | wipes worker session =>
      refine .cons (.wipes s worker t t' ?_) .nil
      exact (Engine.retimes_clear session).bind fun c => Dialogue.retimes_pure rfl

theorem Course.Mirrors.session {c c' : Course} (h : c.Mirrors view s t t' c')
    (setup : Engine.Setup) :
    (∀ u ∈ c.underway setup t, u.activity.session = s) ∧
      ∀ v ∈ c'.underway setup t', v.activity.session = s := by
  cases h with
  | ended => exact ⟨fun _ hu => (nomatch hu), fun _ hv => (nomatch hv)⟩
  | loads | runs | wipes =>
      constructor
      · intro u hu
        rw [List.mem_singleton.mp hu]
      · intro v hv
        rw [List.mem_singleton.mp hv]

/-- If an activity goes on with an engine, then with one that was made for it. -/
theorem Course.engine_of_mem {c : Course} {setup : Engine.Setup} {u : Underway} {token : Token}
    (hu : u ∈ c.underway setup t) (h : u.pending.engine? = some token) : token = t := by
  cases c with
  | ended => cases hu
  | goesOn next job =>
      obtain rfl := List.mem_singleton.mp hu
      cases job with
      | load => cases h
      | run | wipe => exact (Option.some.inj h).symm

theorem mirrors_takeNext (hd : d.Mirrors view s e) (worker : Worker) (stage stage' : Stage) :
    (Activity.takeNext ⟨s, worker, stage⟩ d).1.Mirrors view s t t'
        (Activity.takeNext ⟨s, worker, stage'⟩ e).1 ∧
      (Activity.takeNext ⟨s, worker, stage⟩ d).2.Mirrors view s
        (Activity.takeNext ⟨s, worker, stage'⟩ e).2 := by
  unfold Activity.takeNext
  dsimp only
  cases hwaiting : d.queue.waiting s with
  | nil =>
      rw [Desk.next_of_waiting_nil hwaiting,
        Desk.next_of_waiting_nil (hd.waiting_nil_iff.mpr hwaiting)]
      exact ⟨.ended _, hd.release⟩
  | cons m rest =>
      have hwaiting' : e.queue.waiting s = m.blur view :: rest.map (QueuedMessage.blur view) := by
        rw [hd.waiting, hwaiting, List.map_cons]
      rw [Desk.next_of_waiting_cons hwaiting, Desk.next_of_waiting_cons hwaiting']
      exact ⟨.loads worker m.prompt, hd.afterTaking⟩

theorem mirrors_afterPrompt (hd : d.Mirrors view s e) (worker : Worker) (stage stage' : Stage)
    (result : Except RunError RunSummary) :
    (Activity.afterPrompt ⟨s, worker, stage⟩ result d).1.Mirrors view s t t'
        (Activity.afterPrompt ⟨s, worker, stage'⟩ result e).1 ∧
      (Activity.afterPrompt ⟨s, worker, stage⟩ result d).2.Mirrors view s
        (Activity.afterPrompt ⟨s, worker, stage'⟩ result e).2 := by
  unfold Activity.afterPrompt
  cases worker with
  | drain => exact mirrors_takeNext hd .drain stage stage'
  | direct | wiper => exact ⟨.ended _, hd.handOff⟩

theorem mirrors_abandon (hd : d.Mirrors view s e) {a b : Activity} (ha : a.session = s)
    (hb : b.session = s) (hworker : b.worker = a.worker) :
    (a.abandon d).Mirrors view s (b.abandon e) := by
  have hdrop := hd.dropEngine a b
  unfold Activity.abandon
  rw [hworker, ha, hb]
  cases a.worker with
  | drain => exact hdrop.release
  | direct | wiper => exact hdrop.handOff

theorem Underway.Mirrors.worker {u v : Underway} (h : u.Mirrors view v) :
    v.activity.worker = u.activity.worker := by
  cases h <;> rfl

/-- Both pieces of work run with the engine that is asked, or neither runs. -/
theorem Underway.Mirrors.stage_cases {u v : Underway} (h : u.Mirrors view v) (hfits : u.Fits) :
    ((∀ t, u.activity.stage ≠ .running t) ∧ ∀ t, v.activity.stage ≠ .running t) ∨
      ∃ t t', u.activity.stage = .running t ∧ v.activity.stage = .running t' ∧
        u.pending.engine? = some t ∧ v.pending.engine? = some t' := by
  cases h with
  | opening | wipes => exact .inl ⟨fun _ h => (nomatch h), fun _ h => (nomatch h)⟩
  -- what waits for the store does not run yet
  | waits a =>
      cases hfits with
      | loading | loadingToWipe => exact .inl ⟨fun _ h => (nomatch h), fun _ h => (nomatch h)⟩
  | found a =>
      cases hfits with
      | loaded | loadedToWipe => exact .inl ⟨fun _ h => (nomatch h), fun _ h => (nomatch h)⟩
  | runs id worker t t' => exact .inr ⟨t, t', rfl, rfl, rfl, rfl⟩

end

end AgentSessions
