import AgentSessions.Proofs.Queue.Entries

/-!
# Requests to a queue and what they show

Everything that may be asked of a queue, one request after the other, with all that is answered.
A request about one session reads and changes what is known of this session and nothing else, so
it is described completely by what it does to one entry: `performFor_spec`. That the entry of an
idle session is dropped does not show in any answer.
-/

set_option autoImplicit false

namespace AgentSessions

/-! ## Requests and answers -/

/-- What may be asked about one session. -/
inductive SessionRequest where
  | acquire
  | release
  /-- The message is addressed to the session for which it is queued. -/
  | enqueue (m : QueuedMessage)
  | dequeue
  | clear
  | isBusy
  | waitingCount
  | waiting
  deriving DecidableEq

/-- What may be asked of a queue. -/
inductive QueueRequest where
  | about (id : SessionId) (r : SessionRequest)
  | busySessions
  deriving DecidableEq

/-- What is answered. -/
inductive QueueAnswer where
  /-- Whether the lease was taken, whether there was one to give up, or whether somebody is at
  work. -/
  | flag (b : Bool)
  | queued (m : QueuedMessage)
  | refused (e : QueueError)
  | next (m? : Option QueuedMessage)
  /-- How many messages wait, or how many were dropped. -/
  | count (n : Nat)
  | messages (ms : List QueuedMessage)
  | sessions (ids : List SessionId)
  deriving DecidableEq

/-- The message with a session as its addressee. -/
def QueuedMessage.addressedTo (m : QueuedMessage) (id : SessionId) : QueuedMessage :=
  { m with sessionId := id }

/-- Whether a request is about a session. -/
def QueueRequest.concerns (id : SessionId) : QueueRequest → Bool
  | about id' _ => decide (id' = id)
  | busySessions => false

/-! ## Sequences of requests -/

section Transcript

variable {σ τ : Type}

/-- What is asked and answered, in order, when one request is made after the other. -/
def transcript (perform : σ → QueueRequest → QueueAnswer × σ) (s : σ) :
    List QueueRequest → List (QueueRequest × QueueAnswer)
  | [] => []
  | r :: rest => (r, (perform s r).1) :: transcript perform (perform s r).2 rest

/-- What is left when all requests were made. -/
def afterRequests (perform : σ → QueueRequest → QueueAnswer × σ) (s : σ)
    (requests : List QueueRequest) : σ :=
  requests.foldl (fun s r => (perform s r).2) s

variable {perform : σ → QueueRequest → QueueAnswer × σ}
variable {perform' : τ → QueueRequest → QueueAnswer × τ}

/-- What every request keeps holds after all of them. -/
theorem afterRequests_induction {P : σ → Prop}
    (hstep : ∀ s r, P s → P (perform s r).2) {s : σ} (h : P s) (requests : List QueueRequest) :
    P (afterRequests perform s requests) := by
  induction requests generalizing s with
  | nil => exact h
  | cons r rest ih => exact ih (hstep s r h)

/-- Two that answer alike, request by request, give the same transcript. -/
theorem transcript_eq_of_related {R : σ → τ → Prop}
    (hstep : ∀ s t r, R s t →
      (perform s r).1 = (perform' t r).1 ∧ R (perform s r).2 (perform' t r).2)
    {s : σ} {t : τ} (h : R s t) (requests : List QueueRequest) :
    transcript perform s requests = transcript perform' t requests := by
  induction requests generalizing s t with
  | nil => rfl
  | cons r rest ih =>
      obtain ⟨hanswer, hrelated⟩ := hstep s t r h
      rw [transcript, transcript, hanswer, ih hrelated]

end Transcript

/-! ## What a request does to one entry -/

/-- A request about a session, as what it answers and makes of the session's entry. -/
def QueueEntry.perform (e : QueueEntry) (maxBacklog : Option Nat) (id : SessionId) :
    SessionRequest → QueueAnswer × QueueEntry
  | .acquire => (.flag (!e.busy), { e with busy := true })
  | .release => (.flag e.busy, { e with busy := false })
  | .enqueue m =>
      if maxBacklog.any fun capacity => decide (capacity ≤ e.backlog.length) then
        (.refused (.full id (maxBacklog.getD 0)), e)
      else
        (.queued (m.addressedTo id),
          { e with backlog := QueueManager.insertByPriority (m.addressedTo id) e.backlog })
  | .dequeue => (.next e.backlog.head?, { e with backlog := e.backlog.tail })
  | .clear => (.count e.backlog.length, { e with backlog := [] })
  | .isBusy => (.flag e.busy, e)
  | .waitingCount => (.count e.backlog.length, e)
  | .waiting => (.messages e.backlog, e)

namespace QueueManager

/-- A request about a session. -/
def performFor (q : QueueManager) (id : SessionId) : SessionRequest → QueueAnswer × QueueManager
  | .acquire =>
      match q.acquire? id with
      | some q' => (.flag true, q')
      | none => (.flag false, q)
  | .release =>
      match q.release? id with
      | some q' => (.flag true, q')
      | none => (.flag false, q)
  | .enqueue m =>
      match q.offer (m.addressedTo id) with
      | (none, q') => (.queued (m.addressedTo id), q')
      | (some e, q') => (.refused e, q')
  | .dequeue => (.next (q.take id).1, (q.take id).2)
  | .clear => (.count (q.waitingCount id), q.clear id)
  | .isBusy => (.flag (q.isBusy id), q)
  | .waitingCount => (.count (q.waitingCount id), q)
  | .waiting => (.messages (q.waiting id), q)

/-- A request. -/
def perform (q : QueueManager) : QueueRequest → QueueAnswer × QueueManager
  | .about id r => q.performFor id r
  | .busySessions => (.sessions q.busySessions, q)

/-- Nothing but the entry of one session has changed. -/
structure Becomes (q : QueueManager) (id : SessionId) (e : QueueEntry) (q' : QueueManager) :
    Prop where
  maxBacklog : q'.maxBacklog = q.maxBacklog
  entry : ∀ id', q'.entry id' = if id' = id then e else q.entry id'

theorem becomes_put (q : QueueManager) (id : SessionId) (e : QueueEntry) :
    q.Becomes id e (q.put id e) :=
  ⟨rfl, fun id' => entry_put q id id' e⟩

theorem becomes_self (q : QueueManager) (id : SessionId) : q.Becomes id (q.entry id) q :=
  ⟨rfl, fun id' => by split <;> simp_all⟩

theorem becomes_offer (q : QueueManager) (id : SessionId) (m : QueuedMessage) :
    q.Becomes id
      (if q.isFull id then q.entry id
      else { q.entry id with
        backlog := insertByPriority (m.addressedTo id) (q.entry id).backlog })
      (q.offer (m.addressedTo id)).2 :=
  ⟨q.maxBacklog_offer _, q.entry_offer (m.addressedTo id)⟩

theorem becomes_take (q : QueueManager) (id : SessionId) :
    q.Becomes id { q.entry id with backlog := (q.waiting id).tail } (q.take id).2 :=
  ⟨q.maxBacklog_take id, q.entry_take id⟩

theorem performFor_enqueue (q : QueueManager) (id : SessionId) (m : QueuedMessage) :
    q.performFor id (.enqueue m) =
      ((q.offer (m.addressedTo id)).1.elim (.queued (m.addressedTo id)) .refused,
        (q.offer (m.addressedTo id)).2) := by
  rw [performFor]
  split
  next heq => rw [heq, Option.elim_none]
  next heq => rw [heq, Option.elim_some]

theorem performFor_enqueue_fst (q : QueueManager) (id : SessionId) (m : QueuedMessage) :
    (q.performFor id (.enqueue m)).1 =
      if q.isFull id then .refused (.full id (q.maxBacklog.getD 0))
      else .queued (m.addressedTo id) := by
  have hoffer : (q.offer (m.addressedTo id)).1 =
      if q.isFull id then some (.full id (q.maxBacklog.getD 0)) else none :=
    q.offer_fst (m.addressedTo id)
  rw [performFor_enqueue, hoffer]
  split
  · rfl
  · rfl

theorem performFor_enqueue_snd (q : QueueManager) (id : SessionId) (m : QueuedMessage) :
    (q.performFor id (.enqueue m)).2 = (q.offer (m.addressedTo id)).2 :=
  congrArg Prod.snd (q.performFor_enqueue id m)

/-- A request about a session answers what its entry tells, and changes nothing but this entry. -/
theorem performFor_spec (q : QueueManager) (id : SessionId) (r : SessionRequest) :
    (q.performFor id r).1 = ((q.entry id).perform q.maxBacklog id r).1 ∧
      q.Becomes id ((q.entry id).perform q.maxBacklog id r).2 (q.performFor id r).2 := by
  have same := q.becomes_self id
  -- a request that is turned down has to leave the entry that it found
  cases r with
  | acquire =>
      rw [performFor, acquire?_eq, isBusy]
      cases hbusy : (q.entry id).busy
      · exact ⟨by simp [QueueEntry.perform, hbusy], q.becomes_put id _⟩
      · refine ⟨by simp [QueueEntry.perform, hbusy], ?_⟩
        have heq : { q.entry id with busy := true } = q.entry id := by rw [← hbusy]
        simpa [QueueEntry.perform, heq] using same
  | release =>
      rw [performFor, release?]
      cases hbusy : (q.entry id).busy
      · refine ⟨by simp [QueueEntry.perform, hbusy], ?_⟩
        have heq : { q.entry id with busy := false } = q.entry id := by rw [← hbusy]
        simpa [QueueEntry.perform, heq] using same
      · exact ⟨by simp [QueueEntry.perform, hbusy], q.becomes_put id _⟩
  | enqueue m =>
      have hfull : q.isFull id =
          q.maxBacklog.any fun capacity => decide (capacity ≤ (q.entry id).backlog.length) := by
        rw [isFull]
        cases q.maxBacklog <;> rfl
      have hoffered := q.becomes_offer id m
      rw [QueueEntry.perform, ← hfull, performFor_enqueue_fst, performFor_enqueue_snd]
      by_cases hroom : q.isFull id = true
      · rw [if_pos hroom] at hoffered
        rw [if_pos hroom, if_pos hroom]
        exact ⟨rfl, hoffered⟩
      · rw [if_neg hroom] at hoffered
        rw [if_neg hroom, if_neg hroom]
        exact ⟨rfl, hoffered⟩
  | dequeue => exact ⟨congrArg QueueAnswer.next (q.take_fst id), q.becomes_take id⟩
  | clear => exact ⟨rfl, q.becomes_put id _⟩
  | isBusy => exact ⟨rfl, same⟩
  | waitingCount => exact ⟨rfl, same⟩
  | waiting => exact ⟨rfl, same⟩

/-- Two that know the same of a session answer alike about it, and make the same of its entry. -/
theorem performFor_congr {q q' : QueueManager} {id : SessionId}
    (hmax : q.maxBacklog = q'.maxBacklog) (hentry : q.entry id = q'.entry id)
    (r : SessionRequest) :
    ∃ e, (q.performFor id r).1 = (q'.performFor id r).1 ∧ q.Becomes id e (q.performFor id r).2 ∧
      q'.Becomes id e (q'.performFor id r).2 := by
  obtain ⟨hanswer, hafter⟩ := q.performFor_spec id r
  obtain ⟨hanswer', hafter'⟩ := q'.performFor_spec id r
  rw [← hentry, ← hmax] at hanswer' hafter'
  exact ⟨_, hanswer.trans hanswer'.symm, hafter, hafter'⟩

/-! ## The sessions on which somebody is at work -/

theorem mem_busySessions {q : QueueManager} {id : SessionId} :
    id ∈ q.busySessions ↔ q.isBusy id = true := by
  rw [busySessions, isBusy, entry]
  simp only [List.mem_map, List.mem_filter, Prod.exists, Dict.mem_entries_iff]
  constructor
  · rintro ⟨text, e, ⟨hentry, hbusy⟩, rfl⟩
    simpa [hentry] using hbusy
  · intro hbusy
    cases hentry : q.entries.get? id.text with
    | none =>
        rw [hentry] at hbusy
        cases hbusy
    | some e =>
        rw [hentry] at hbusy
        exact ⟨id.text, e, ⟨hentry, hbusy⟩, rfl⟩

theorem sorted_busySessions (q : QueueManager) :
    q.busySessions.Pairwise fun a b => a.text < b.text :=
  List.pairwise_map.mpr (List.Pairwise.filter _ q.entries.sorted)

theorem nodup_busySessions (q : QueueManager) : q.busySessions.Nodup :=
  q.sorted_busySessions.imp fun hlt heq => by
    rw [heq] at hlt
    exact String.lt_irrefl _ hlt

theorem ordered_busySessions (q : QueueManager) :
    q.busySessions.Pairwise fun a b => a.text ≤ b.text :=
  q.sorted_busySessions.imp fun hlt => String.not_lt.mp (String.lt_asymm hlt)

/-- The sessions at work are determined by their order and by who is at work. -/
theorem busySessions_eq_of_mem_iff {q : QueueManager} {ids : List SessionId}
    (hordered : ids.Pairwise fun a b => a.text ≤ b.text) (hnodup : ids.Nodup)
    (hmem : ∀ id, id ∈ ids ↔ q.isBusy id = true) : q.busySessions = ids := by
  refine List.Perm.eq_of_pairwise (fun a b _ _ hab hba => ?_) q.ordered_busySessions hordered
    ((List.perm_ext_iff_of_nodup q.nodup_busySessions hnodup).mpr fun id => ?_)
  · exact SessionId.text_inj.mp (String.le_antisymm hab hba)
  · rw [mem_busySessions, hmem]

/-! ## Which entries are kept does not show -/

/-- The two know the same of every session, whatever idle entries they keep. -/
structure Alike (q q' : QueueManager) : Prop where
  maxBacklog : q.maxBacklog = q'.maxBacklog
  entry : ∀ id, q.entry id = q'.entry id

/-- An idle entry that is dropped reads as one that is kept. -/
theorem alike_prune (q : QueueManager) (id : SessionId) : (q.prune id).Alike q :=
  ⟨rfl, q.entry_prune id⟩

/-- A message that is refused leaves no more than the entry that was opened for it. -/
theorem alike_of_refused {q : QueueManager} {id : SessionId} (m : QueuedMessage)
    (h : q.isFull id = true) : (q.performFor id (.enqueue m)).2.Alike q := by
  obtain ⟨hmax, hentry⟩ := q.becomes_offer id m
  rw [if_pos h] at hentry
  rw [performFor_enqueue_snd]
  refine ⟨hmax, fun id' => (hentry id').trans ?_⟩
  by_cases hid : id' = id
  · rw [if_pos hid, hid]
  · rw [if_neg hid]

theorem Alike.perform {q q' : QueueManager} (h : q.Alike q') (r : QueueRequest) :
    (q.perform r).1 = (q'.perform r).1 ∧ (q.perform r).2.Alike (q'.perform r).2 := by
  cases r with
  | about id r =>
      obtain ⟨e, hanswer, hafter, hafter'⟩ := performFor_congr h.maxBacklog (h.entry id) r
      refine ⟨hanswer, ?_, fun id' => ?_⟩
      · exact hafter.maxBacklog.trans (h.maxBacklog.trans hafter'.maxBacklog.symm)
      · change (q.performFor id r).2.entry id' = (q'.performFor id r).2.entry id'
        rw [hafter.entry, hafter'.entry, h.entry id']
  | busySessions =>
      refine ⟨congrArg QueueAnswer.sessions ?_, h⟩
      refine busySessions_eq_of_mem_iff q'.ordered_busySessions q'.nodup_busySessions fun id => ?_
      rw [mem_busySessions, isBusy, isBusy, h.entry]

theorem Alike.transcript_eq {q q' : QueueManager} (h : q.Alike q') (requests : List QueueRequest) :
    transcript QueueManager.perform q requests = transcript QueueManager.perform q' requests :=
  transcript_eq_of_related (R := Alike) (fun _ _ r h => h.perform r) h requests

end QueueManager

end AgentSessions
