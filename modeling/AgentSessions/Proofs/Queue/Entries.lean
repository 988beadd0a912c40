import AgentSessions.Proofs.Dict
import AgentSessions.Queue.Manager

/-!
# What is known of a session

Every operation of a queue changes what is known of one session and leaves what is known of the
others. An entry that is dropped because it is idle reads as the idle entry, so the pruning of
entries cannot be seen: `entry_put`, on which all that follows rests.
-/

set_option autoImplicit false

namespace AgentSessions

theorem SessionId.text_inj {id id' : SessionId} : id.text = id'.text ↔ id = id' := by
  constructor
  · intro h
    cases id
    cases id'
    exact congrArg SessionId.mk h
  · intro h
    rw [h]

theorem QueueEntry.eq_idle_of_isIdle {e : QueueEntry} (h : e.isIdle = true) : e = .idle := by
  obtain ⟨busy, backlog⟩ := e
  simp only [isIdle, Bool.and_eq_true, Bool.not_eq_true', List.isEmpty_iff] at h
  obtain ⟨rfl, rfl⟩ := h
  rfl

namespace QueueManager

/-! ## One entry -/

theorem entry_set (q : QueueManager) (id id' : SessionId) (e : QueueEntry) :
    (q.set id e).entry id' = if id' = id then e else q.entry id' := by
  rw [entry, set, Dict.get?_insert]
  by_cases hid : id' = id
  · rw [if_pos (SessionId.text_inj.mpr hid), if_pos hid]
    rfl
  · rw [if_neg (mt SessionId.text_inj.mp hid), if_neg hid]
    rfl

theorem prune_of_get? {q : QueueManager} {id : SessionId} {e : QueueEntry}
    (h : q.entries.get? id.text = some e) :
    q.prune id = { q with
      entries := if e.isIdle then q.entries.erase id.text else q.entries } := by
  rw [prune, h]

/-- Pruning drops an entry that reads as one that is not there. -/
theorem entry_prune (q : QueueManager) (id id' : SessionId) :
    (q.prune id).entry id' = q.entry id' := by
  cases hfound : q.entries.get? id.text with
  | none => rw [prune, hfound]
  | some e =>
      rw [prune_of_get? hfound]
      by_cases hidle : e.isIdle = true
      · rw [if_pos hidle, entry, entry, Dict.get?_erase]
        by_cases hid : id'.text = id.text
        · rw [if_pos hid, hid, hfound, QueueEntry.eq_idle_of_isIdle hidle]
          rfl
        · rw [if_neg hid]
      · rw [if_neg hidle]

theorem entry_put (q : QueueManager) (id id' : SessionId) (e : QueueEntry) :
    (q.put id e).entry id' = if id' = id then e else q.entry id' := by
  rw [put, entry_prune, entry_set]

/-- An entry that is not idle is kept. -/
theorem put_of_not_idle (q : QueueManager) (id : SessionId) {e : QueueEntry}
    (h : e.isIdle = false) : q.put id e = q.set id e := by
  have hfound : (q.set id e).entries.get? id.text = some e := by
    rw [set, Dict.get?_insert, if_pos rfl]
  rw [put, prune_of_get? hfound, if_neg (Bool.eq_false_iff.mp h)]

theorem isBusy_put (q : QueueManager) (id id' : SessionId) (e : QueueEntry) :
    (q.put id e).isBusy id' = if id' = id then e.busy else q.isBusy id' := by
  rw [isBusy, entry_put]
  split <;> rfl

theorem waiting_put (q : QueueManager) (id id' : SessionId) (e : QueueEntry) :
    (q.put id e).waiting id' = if id' = id then e.backlog else q.waiting id' := by
  rw [waiting, entry_put]
  split <;> rfl

/-- A session that stays busy or idle does so for everyone who looks. -/
theorem isBusy_put_of_eq {q : QueueManager} {id : SessionId} {e : QueueEntry}
    (h : e.busy = q.isBusy id) (id' : SessionId) :
    (q.put id e).isBusy id' = q.isBusy id' := by
  rw [isBusy_put]
  by_cases hid : id' = id
  · rw [if_pos hid, h, hid]
  · rw [if_neg hid]

/-- A backlog that stays as it is does so for everyone who looks. -/
theorem waiting_put_of_eq {q : QueueManager} {id : SessionId} {e : QueueEntry}
    (h : e.backlog = q.waiting id) (id' : SessionId) :
    (q.put id e).waiting id' = q.waiting id' := by
  rw [waiting_put]
  by_cases hid : id' = id
  · rw [if_pos hid, h, hid]
  · rw [if_neg hid]

/-! ## The operations, as changes of one entry -/

theorem acquire?_eq (q : QueueManager) (id : SessionId) :
    q.acquire? id =
      if q.isBusy id then none else some (q.put id { q.entry id with busy := true }) := by
  rw [put_of_not_idle q id rfl]
  rfl

theorem entry_release (q : QueueManager) (id id' : SessionId) :
    (q.release id).entry id' =
      if id' = id then { q.entry id with busy := false } else q.entry id' := by
  rw [release, release?]
  by_cases hbusy : (q.entry id).busy = true
  · rw [if_pos hbusy, Option.getD_some, entry_put]
  · rw [if_neg hbusy, Option.getD_none]
    by_cases hid : id' = id
    · rw [if_pos hid, hid, ← Bool.eq_false_iff.mpr hbusy]
    · rw [if_neg hid]

theorem isBusy_release (q : QueueManager) (id id' : SessionId) :
    (q.release id).isBusy id' = if id' = id then false else q.isBusy id' := by
  rw [isBusy, entry_release]
  split <;> rfl

theorem waiting_release (q : QueueManager) (id id' : SessionId) :
    (q.release id).waiting id' = q.waiting id' := by
  rw [waiting, entry_release]
  split
  · rename_i h
    rw [h]
    rfl
  · rfl

theorem isBusy_clear (q : QueueManager) (id id' : SessionId) :
    (q.clear id).isBusy id' = q.isBusy id' := by
  rw [clear]
  refine isBusy_put_of_eq ?_ id'
  rfl

theorem waiting_clear (q : QueueManager) (id id' : SessionId) :
    (q.clear id).waiting id' = if id' = id then [] else q.waiting id' := by
  rw [clear, waiting_put]

theorem take_fst (q : QueueManager) (id : SessionId) : (q.take id).1 = (q.waiting id).head? := by
  rw [take, waiting, entry]
  cases q.entries.get? id.text <;> rfl

/-- An entry that was not there is not opened by a look at it. -/
theorem entry_take (q : QueueManager) (id id' : SessionId) :
    (q.take id).2.entry id' =
      if id' = id then { q.entry id with backlog := (q.waiting id).tail } else q.entry id' := by
  rw [take]
  cases hfound : q.entries.get? id.text with
  | none =>
      have hidle : q.entry id = .idle := by rw [entry, hfound, Option.getD_none]
      by_cases hid : id' = id
      · rw [if_pos hid, hid, waiting, hidle]
        rfl
      · rw [if_neg hid]
  | some e =>
      have hentry : q.entry id = e := by rw [entry, hfound, Option.getD_some]
      rw [waiting, hentry]
      exact entry_put q id id' _

@[simp] theorem maxBacklog_take (q : QueueManager) (id : SessionId) :
    (q.take id).2.maxBacklog = q.maxBacklog := by
  rw [take]
  split <;> rfl

theorem dequeue_eq (q : QueueManager) (id : SessionId) :
    q.dequeue id =
      match q.waiting id with
      | [] => none
      | m :: rest => some (m, q.put id { q.entry id with backlog := rest }) := by
  rw [dequeue, take, waiting, entry]
  cases q.entries.get? id.text with
  | none => rfl
  | some e =>
      obtain ⟨busy, backlog⟩ := e
      cases backlog <;> rfl

theorem dequeue_eq_none {q : QueueManager} {id : SessionId} :
    q.dequeue id = none ↔ q.waiting id = [] := by
  rw [dequeue_eq]
  cases q.waiting id <;> simp

theorem insertByPriority_ne_nil (m : QueuedMessage) (backlog : List QueuedMessage) :
    insertByPriority m backlog ≠ [] := by
  cases backlog with
  | nil => exact List.cons_ne_nil _ _
  | cons queued rest =>
      rw [insertByPriority]
      split <;> exact List.cons_ne_nil _ _

theorem offer_fst (q : QueueManager) (m : QueuedMessage) :
    (q.offer m).1 =
      if q.isFull m.sessionId then some (.full m.sessionId (q.maxBacklog.getD 0)) else none := by
  rw [offer]
  split <;> rfl

/-- The entry that a refused message opens reads as one that is not there. -/
theorem entry_offer (q : QueueManager) (m : QueuedMessage) (id : SessionId) :
    (q.offer m).2.entry id =
      if id = m.sessionId then
        if q.isFull m.sessionId then q.entry m.sessionId
        else { q.entry m.sessionId with
          backlog := insertByPriority m (q.entry m.sessionId).backlog }
      else q.entry id := by
  rw [offer]
  split <;> exact entry_set q m.sessionId id _

@[simp] theorem maxBacklog_offer (q : QueueManager) (m : QueuedMessage) :
    (q.offer m).2.maxBacklog = q.maxBacklog := by
  rw [offer]
  split <;> rfl

theorem enqueue_eq (q : QueueManager) (m : QueuedMessage) :
    q.enqueue m =
      if q.isFull m.sessionId then .error (.full m.sessionId (q.maxBacklog.getD 0))
      else .ok (q.put m.sessionId
        { q.entry m.sessionId with
          backlog := insertByPriority m (q.entry m.sessionId).backlog }) := by
  rw [enqueue, offer]
  by_cases hfull : q.isFull m.sessionId = true
  · rw [if_pos hfull, if_pos hfull]
  · rw [if_neg hfull, if_neg hfull, put_of_not_idle]
    rw [QueueEntry.isIdle, Bool.and_eq_false_iff, List.isEmpty_eq_false_iff]
    exact Or.inr (insertByPriority_ne_nil m _)

/-! ## Sessions on which somebody is at work

The entry of such a session is there and is kept. So a message that is refused opens no entry, and a
look at an empty backlog drops none: whoever holds the lease can go on with the queue as it was,
as `enqueue` and `dequeue` have it. -/

theorem set_entry_of_isBusy {q : QueueManager} {id : SessionId} (h : q.isBusy id = true) :
    q.set id (q.entry id) = q := by
  have hentries : q.entries.insert id.text (q.entry id) = q.entries := by
    refine Dict.eq_of_entries (Entries.eq_of_get?_eq (Dict.sorted _) q.entries.sorted ?_)
    intro text
    show (q.entries.insert id.text (q.entry id)).get? text = q.entries.get? text
    rw [Dict.get?_insert]
    by_cases htext : text = id.text
    · rw [if_pos htext, htext]
      cases hfound : q.entries.get? id.text with
      | none =>
          rw [isBusy, entry, hfound] at h
          cases h
      | some e => rw [entry, hfound, Option.getD_some]
    · rw [if_neg htext]
  rw [set, hentries]

theorem offer_of_isFull_of_isBusy {q : QueueManager} {m : QueuedMessage}
    (hfull : q.isFull m.sessionId = true) (hbusy : q.isBusy m.sessionId = true) :
    q.offer m = (some (.full m.sessionId (q.maxBacklog.getD 0)), q) := by
  rw [offer, if_pos hfull, set_entry_of_isBusy hbusy]

theorem take_of_waiting_nil_of_isBusy {q : QueueManager} {id : SessionId}
    (hnone : q.waiting id = []) (hbusy : q.isBusy id = true) : q.take id = (none, q) := by
  rw [take]
  cases hfound : q.entries.get? id.text with
  | none => rfl
  | some e =>
      have hentry : q.entry id = e := by rw [entry, hfound, Option.getD_some]
      have hkept : e.isIdle = false := by
        rw [isBusy, hentry] at hbusy
        rw [QueueEntry.isIdle, hbusy]
        rfl
      have hbacklog : e.backlog = [] := by rw [← hentry]; exact hnone
      have hsame : { e with backlog := e.backlog.tail } = e := by
        rw [hbacklog, List.tail_nil, ← hbacklog]
      dsimp only
      rw [hsame, put_of_not_idle q id hkept, ← hentry, set_entry_of_isBusy hbusy, hentry, hbacklog]
      rfl

/-! ## The order of a backlog -/

theorem perm_insertByPriority (m : QueuedMessage) (backlog : List QueuedMessage) :
    (insertByPriority m backlog).Perm (m :: backlog) := by
  induction backlog with
  | nil => exact List.Perm.refl _
  | cons queued rest ih =>
      rw [insertByPriority]
      split
      · exact List.Perm.refl _
      · exact (List.Perm.cons queued ih).trans (List.Perm.swap m queued rest)

end QueueManager

end AgentSessions
