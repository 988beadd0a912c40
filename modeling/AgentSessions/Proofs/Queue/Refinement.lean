import AgentSessions.Proofs.Queue.Ledger

/-!
# A queue as a plain priority queue

What a caller can rely on, whatever it asks in whatever order: the answers are those of the ledger
with one row for every session, an answer about a session depends on the requests about this
session alone, and every accepted message is taken out, dropped or still waiting, and only one of
the three.
-/

set_option autoImplicit false

namespace AgentSessions

namespace QueueManager

/-! ## One session apart from all others -/

/-- The two know the same of one session. -/
structure AlikeFor (id : SessionId) (q q' : QueueManager) : Prop where
  maxBacklog : q.maxBacklog = q'.maxBacklog
  entry : q.entry id = q'.entry id

theorem AlikeFor.performFor {id : SessionId} {q q' : QueueManager} (h : q.AlikeFor id q')
    (r : SessionRequest) :
    (q.performFor id r).1 = (q'.performFor id r).1 ∧
      (q.performFor id r).2.AlikeFor id (q'.performFor id r).2 := by
  obtain ⟨e, hanswer, hafter, hafter'⟩ := performFor_congr h.maxBacklog h.entry r
  refine ⟨hanswer, ?_, ?_⟩
  · exact hafter.maxBacklog.trans (h.maxBacklog.trans hafter'.maxBacklog.symm)
  · rw [hafter.entry, hafter'.entry, if_pos rfl, if_pos rfl]

/-- A request about another session leaves the session as it is. -/
theorem AlikeFor.perform_of_not_concerns {id : SessionId} {q q' : QueueManager}
    (h : q.AlikeFor id q') {r : QueueRequest} (hr : r.concerns id = false) :
    (q.perform r).2.AlikeFor id q' := by
  cases r with
  | about other r =>
      have hother : ¬id = other := fun heq => by simp [QueueRequest.concerns, heq] at hr
      have hafter := (q.performFor_spec other r).2
      refine ⟨hafter.maxBacklog.trans h.maxBacklog, ?_⟩
      exact (hafter.entry id).trans ((if_neg hother).trans h.entry)
  | busySessions => exact h

/-- The answers about a session are those that the requests about it get on their own. -/
theorem AlikeFor.transcript {id : SessionId} {q q' : QueueManager} (h : q.AlikeFor id q')
    (requests : List QueueRequest) :
    (transcript perform q requests).filter (·.1.concerns id) =
        transcript perform q' (requests.filter (·.concerns id)) ∧
      (afterRequests perform q requests).AlikeFor id
        (afterRequests perform q' (requests.filter (·.concerns id))) := by
  induction requests generalizing q q' with
  | nil => exact ⟨rfl, h⟩
  | cons r rest ih =>
      -- a request about the session is made on both sides, any other one is left out on the right
      cases hr : r.concerns id with
      | true =>
          obtain ⟨other, r', rfl⟩ : ∃ other r', r = .about other r' := by
            cases r with
            | about other r' => exact ⟨other, r', rfl⟩
            | busySessions => cases hr
          obtain rfl : other = id := of_decide_eq_true hr
          obtain ⟨hanswer, hafter⟩ := h.performFor r'
          have hhead : (q.perform (.about other r')).1 = (q'.perform (.about other r')).1 := hanswer
          obtain ⟨hrest, hlast⟩ := ih hafter
          rw [List.filter_cons_of_pos (p := fun r : QueueRequest => r.concerns other) hr,
            AgentSessions.transcript, AgentSessions.transcript,
            List.filter_cons_of_pos
              (p := fun e : QueueRequest × QueueAnswer => e.1.concerns other) hr]
          rw [hhead]
          exact ⟨congrArg (List.cons _) hrest, hlast⟩
      | false =>
          have hskip : ¬r.concerns id = true := by rw [hr]; exact Bool.false_ne_true
          rw [List.filter_cons_of_neg (p := fun r : QueueRequest => r.concerns id) hskip,
            AgentSessions.transcript,
            List.filter_cons_of_neg
              (p := fun e : QueueRequest × QueueAnswer => e.1.concerns id) hskip]
          exact ih (h.perform_of_not_concerns hr)

/-! ## What becomes of the messages -/

/-- The message that an answered request put into the backlog of a session. -/
def accepted (id : SessionId) : QueueRequest × QueueAnswer → List QueuedMessage
  | (.about id' (.enqueue _), .queued m) => if id' = id then [m] else []
  | _ => []

/-- The message that an answered request took from the backlog of a session. -/
def takenOut (id : SessionId) : QueueRequest × QueueAnswer → List QueuedMessage
  | (.about id' .dequeue, .next (some m)) => if id' = id then [m] else []
  | _ => []

/-- How many messages of a session an answered request dropped. -/
def dropped (id : SessionId) : QueueRequest × QueueAnswer → Nat
  | (.about id' .clear, .count n) => if id' = id then n else 0
  | _ => 0

/-- How many messages of a session were dropped. -/
def droppedIn (id : SessionId) : List (QueueRequest × QueueAnswer) → Nat
  | [] => 0
  | e :: rest => dropped id e + droppedIn id rest

theorem droppedIn_append (id : SessionId) (first later : List (QueueRequest × QueueAnswer)) :
    droppedIn id (first ++ later) = droppedIn id first + droppedIn id later := by
  induction first with
  | nil => exact (Nat.zero_add _).symm
  | cons e rest ih => rw [List.cons_append, droppedIn, droppedIn, ih, Nat.add_assoc]

/-- What waited and what came in is what went out, what was dropped and what waits. -/
def Balances (id : SessionId) (before after : QueueManager)
    (seen : List (QueueRequest × QueueAnswer)) : Prop :=
  ∃ lost : List QueuedMessage,
    lost.length = droppedIn id seen ∧
      (before.waiting id ++ seen.flatMap (accepted id)).Perm
        (seen.flatMap (takenOut id) ++ lost ++ after.waiting id)

theorem Balances.trans {id : SessionId} {q₁ q₂ q₃ : QueueManager}
    {first later : List (QueueRequest × QueueAnswer)} (h₁ : Balances id q₁ q₂ first)
    (h₂ : Balances id q₂ q₃ later) : Balances id q₁ q₃ (first ++ later) := by
  obtain ⟨lost₁, hcount₁, hperm₁⟩ := h₁
  obtain ⟨lost₂, hcount₂, hperm₂⟩ := h₂
  refine ⟨lost₁ ++ lost₂, ?_, List.perm_iff_count.mpr fun m => ?_⟩
  · rw [List.length_append, hcount₁, hcount₂, droppedIn_append]
  · have h₁ := hperm₁.count_eq m
    have h₂ := hperm₂.count_eq m
    simp only [List.count_append, List.flatMap_append] at h₁ h₂ ⊢
    omega

/-- An answered request about another session is none of these. -/
theorem nothing_of_ne {id other : SessionId} (h : ¬other = id) (r : SessionRequest)
    (a : QueueAnswer) :
    accepted id (.about other r, a) = [] ∧ takenOut id (.about other r, a) = [] ∧
      dropped id (.about other r, a) = 0 := by
  refine ⟨?_, ?_, ?_⟩
  · unfold accepted
    split <;> simp_all
  · unfold takenOut
    split <;> simp_all
  · unfold dropped
    split <;> simp_all

theorem balances_perform (id : SessionId) (q : QueueManager) (r : QueueRequest) :
    Balances id q (q.perform r).2 [(r, (q.perform r).1)] := by
  cases r with
  | busySessions => exact ⟨[], rfl, by simp [accepted, takenOut, perform]⟩
  | about other r =>
      obtain ⟨hanswer, hafter⟩ := q.performFor_spec other r
      have hwaiting := congrArg QueueEntry.backlog (hafter.entry id)
      change Balances id q (q.performFor other r).2 [(_, (q.performFor other r).1)]
      rw [hanswer]
      -- only a request about this session can bring, take or drop a message of it
      by_cases hid : id = other
      · subst hid
        rw [if_pos rfl] at hwaiting
        cases r with
        | enqueue m =>
            rw [QueueEntry.perform] at hwaiting ⊢
            split at hwaiting
            next hfull =>
              rw [if_pos hfull]
              exact ⟨[], rfl, by simp [accepted, takenOut, waiting, hwaiting]⟩
            next hroom =>
              rw [if_neg hroom]
              refine ⟨[], rfl, ?_⟩
              simp only [accepted, takenOut, waiting, hwaiting, List.flatMap_singleton, if_pos,
                List.nil_append]
              exact (List.perm_append_singleton _ _).trans (perm_insertByPriority _ _).symm
        | dequeue =>
            rw [QueueEntry.perform] at hwaiting ⊢
            refine ⟨[], rfl, ?_⟩
            cases hbacklog : (q.entry id).backlog with
            | nil => simp [accepted, takenOut, waiting, hwaiting, hbacklog]
            | cons m rest => simp [accepted, takenOut, waiting, hwaiting, hbacklog]
        | clear =>
            refine ⟨q.waiting id, by simp [droppedIn, dropped, QueueEntry.perform, waiting], ?_⟩
            simp [accepted, takenOut, QueueEntry.perform, waiting, hwaiting]
        | _ => exact ⟨[], rfl, by simp [accepted, takenOut, QueueEntry.perform, waiting, hwaiting]⟩
      · rw [if_neg hid] at hwaiting
        obtain ⟨hin, hout, hlost⟩ := nothing_of_ne (fun heq => hid heq.symm) r
          ((q.entry other).perform q.maxBacklog other r).1
        refine ⟨[], by simp [droppedIn, hlost], ?_⟩
        simp [hin, hout, waiting, hwaiting]

theorem balances_transcript (id : SessionId) (q : QueueManager) (requests : List QueueRequest) :
    Balances id q (afterRequests perform q requests) (transcript perform q requests) := by
  induction requests generalizing q with
  | nil => exact ⟨[], rfl, by simp [transcript, afterRequests]⟩
  | cons r rest ih => exact (balances_perform id q r).trans (ih (q.perform r).2)

/-! ## Taking out one message after the other -/

/-- What waits is what comes out when one message after the other is taken. -/
theorem transcript_dequeue (q : QueueManager) (id : SessionId) :
    transcript perform q (List.replicate (q.waitingCount id) (.about id .dequeue)) =
      (q.waiting id).map fun m => (.about id .dequeue, .next (some m)) := by
  rw [waitingCount]
  generalize hbacklog : q.waiting id = backlog
  induction backlog generalizing q with
  | nil => rfl
  | cons m rest ih =>
      obtain ⟨hanswer, hafter⟩ := q.performFor_spec id .dequeue
      have hrest : (q.performFor id .dequeue).2.waiting id = rest := by
        have hwaiting := congrArg QueueEntry.backlog (hafter.entry id)
        rw [if_pos rfl, QueueEntry.perform] at hwaiting
        exact hwaiting.trans (congrArg List.tail hbacklog)
      rw [List.length_cons, List.replicate_succ, transcript, List.map_cons]
      have hnext : (q.perform (.about id .dequeue)).1 = .next (some m) :=
        hanswer.trans (congrArg (fun b : List QueuedMessage => QueueAnswer.next b.head?) hbacklog)
      rw [hnext]
      exact congrArg (List.cons _) (ih _ hrest)

/-! ## All requests -/

/-- However a queue came to be, there is a ledger that it keeps step with. -/
theorem exists_ledger (maxBacklog : Option Nat) (requests : List QueueRequest) :
    ∃ l : Ledger, l.Matches (afterRequests perform (empty maxBacklog) requests) ∧
      l.maxBacklog = maxBacklog := by
  refine afterRequests_induction
    (P := fun q => ∃ l : Ledger, l.Matches q ∧ l.maxBacklog = maxBacklog)
    (fun q r ⟨l, hmatches, hmax⟩ => ?_) ⟨_, Ledger.matches_empty maxBacklog, rfl⟩ requests
  refine ⟨(l.perform r).2, (hmatches.perform r).2, ?_⟩
  cases r <;> exact hmax

/-- **A queue is a plain priority queue for each session.** Whatever is asked of a queue, in
whatever order: all answers are those of the ledger that never drops a row. A message is refused
exactly when as many messages wait as may, and the queue that this leaves answers everything as it
would have before. What waits for a session is what would come out message by message. No idle entry
that is kept or dropped shows in any later answer. The answers about a session, and whether it is
listed as busy, are those of the requests about it alone; and every accepted message was taken out,
was dropped, or waits. -/
theorem refines_ledger (maxBacklog : Option Nat) (requests : List QueueRequest) :
    let q := afterRequests perform (empty maxBacklog) requests
    let seen := transcript perform (empty maxBacklog) requests
    seen = transcript Ledger.perform (.empty maxBacklog) requests ∧
      (∀ id m, let offered := q.perform (.about id (.enqueue m))
        if maxBacklog = some (q.waitingCount id) then
          offered.1 = .refused (.full id (q.waitingCount id)) ∧
            ∀ later, transcript perform offered.2 later = transcript perform q later
        else offered.1 = .queued (m.addressedTo id)) ∧
      (∀ id, transcript perform q (List.replicate (q.waitingCount id) (.about id .dequeue)) =
        (q.waiting id).map fun m => (.about id .dequeue, .next (some m))) ∧
      (∀ id later, transcript perform (q.prune id) later = transcript perform q later) ∧
      (∀ q', q.Alike q' → ∀ later, transcript perform q later = transcript perform q' later) ∧
      (∀ id, let alone := requests.filter (·.concerns id)
        seen.filter (·.1.concerns id) = transcript perform (empty maxBacklog) alone ∧
          (id ∈ q.busySessions ↔
            (afterRequests perform (empty maxBacklog) alone).isBusy id = true)) ∧
      ∀ id, ∃ lost : List QueuedMessage, lost.length = droppedIn id seen ∧
        (seen.flatMap (accepted id)).Perm
          (seen.flatMap (takenOut id) ++ lost ++ q.waiting id) := by
  obtain ⟨l, hmatches, rfl⟩ := exists_ledger maxBacklog requests
  intro q seen
  refine ⟨(Ledger.matches_empty l.maxBacklog).transcript_eq requests, fun id m => ?_,
    transcript_dequeue q, fun id later => (q.alike_prune id).transcript_eq later,
    fun q' hq' later => hq'.transcript_eq later, fun id => ?_, fun id => ?_⟩
  · intro offered
    have hoffered : offered.1 = if q.isFull id then .refused (.full id (q.maxBacklog.getD 0))
        else .queued (m.addressedTo id) := q.performFor_enqueue_fst id m
    by_cases hfull : l.maxBacklog = some (q.waitingCount id)
    · have hisFull : q.isFull id = true := (hmatches.isFull_iff id).mpr hfull
      have hcapacity : q.maxBacklog.getD 0 = q.waitingCount id := by
        rw [hmatches.maxBacklog, hfull, Option.getD_some]
      rw [if_pos hisFull, hcapacity] at hoffered
      rw [if_pos hfull]
      exact ⟨hoffered, (alike_of_refused m hisFull).transcript_eq⟩
    · rw [if_neg (mt (hmatches.isFull_iff id).mp hfull)] at hoffered
      rw [if_neg hfull]
      exact hoffered
  · have halike : (empty l.maxBacklog).AlikeFor id (empty l.maxBacklog) := ⟨rfl, rfl⟩
    obtain ⟨hseen, hafter⟩ := halike.transcript requests
    refine ⟨hseen, ?_⟩
    rw [mem_busySessions, isBusy, hafter.entry, isBusy]
  · exact balances_transcript id (empty l.maxBacklog) requests

/-- Where no message may wait, one that is refused leaves an entry, which the next look drops. -/
example :
    let m : QueuedMessage := ⟨⟨"m"⟩, ⟨"s"⟩, "go on", .normal, .empty, ⟨0, 0⟩⟩
    let q := afterRequests perform (empty (some 0)) [.about ⟨"s"⟩ (.enqueue m)]
    q.entries.get? "s" = some .idle ∧
      (q.perform (.about ⟨"s"⟩ .dequeue)).2 = empty (some 0) := by
  decide

end QueueManager

end AgentSessions
