import AgentSessions.Proofs.Queue.Entries
import AgentSessions.Queue.LeaseBook

/-!
# Leases and the entries that are kept for them

Leases are taken and dropped, prompts are offered, taken out and cleared, in any order and for any
sessions. Two things have to survive every such request. Who is busy is who is leased: `Sound`
says that the sessions of the live leases are different and are the busy ones. And no entry
outlives its use: `Tidy` says that every entry that is kept is busy or has a backlog.

Taking a lease under a name that is in use drops the former lease of that name, and at that moment
the new lease is not in the book yet. So `Sound` has the sessions whose leases are still to be
entered as a parameter; between two requests there are none.
-/

set_option autoImplicit false

namespace AgentSessions

namespace QueueManager

variable {q : QueueManager}

/-! ## No entry outlives its use -/

/-- Every entry that is kept is busy or has a backlog. -/
def Tidy (q : QueueManager) : Prop :=
  ∀ text e, q.entries.get? text = some e → e.isIdle = false

theorem tidy_empty (maxBacklog : Option Nat) : (empty maxBacklog).Tidy := by
  intro text e h
  cases h

theorem Tidy.set (h : q.Tidy) (id : SessionId) {e : QueueEntry} (he : e.isIdle = false) :
    (q.set id e).Tidy := by
  intro text e' hfound
  rw [QueueManager.set, Dict.get?_insert] at hfound
  split at hfound
  · cases hfound
    exact he
  · exact h text e' hfound

/-- An entry that becomes idle is the one that is pruned. -/
theorem Tidy.put (h : q.Tidy) (id : SessionId) (e : QueueEntry) : (q.put id e).Tidy := by
  cases hidle : e.isIdle with
  | false =>
      rw [put_of_not_idle q id hidle]
      exact h.set id hidle
  | true =>
      intro text e' hfound
      have hput : (q.put id e).entries = ((q.set id e).entries.erase id.text) := by
        have hset : (q.set id e).entries.get? id.text = some e := by
          rw [QueueManager.set, Dict.get?_insert, if_pos rfl]
        rw [QueueManager.put, prune_of_get? hset, if_pos hidle]
      rw [hput, Dict.get?_erase] at hfound
      split at hfound
      · cases hfound
      · rename_i hother
        rw [QueueManager.set, Dict.get?_insert, if_neg hother] at hfound
        exact h text e' hfound

/-- The map holds nothing about a session that is idle and for which nothing waits. -/
theorem Tidy.get?_eq_none (h : q.Tidy) {id : SessionId} (hbusy : q.isBusy id = false)
    (hwaiting : q.waiting id = []) : q.entries.get? id.text = none := by
  cases hfound : q.entries.get? id.text with
  | none => rfl
  | some e =>
      have hentry : q.entry id = e := by rw [entry, hfound, Option.getD_some]
      have hkept := h id.text e hfound
      rw [isBusy, hentry] at hbusy
      rw [waiting, hentry] at hwaiting
      rw [QueueEntry.isIdle, hbusy, hwaiting] at hkept
      cases hkept

/-- A backlog that is full has something in it, so the entry that a refused prompt opens was there
before. -/
theorem Tidy.offer (h : q.Tidy) (hroom : q.maxBacklog ≠ some 0) (m : QueuedMessage) :
    (q.offer m).2.Tidy := by
  rw [QueueManager.offer]
  by_cases hfull : q.isFull m.sessionId = true
  · rw [if_pos hfull]
    refine h.set m.sessionId ?_
    have hne : (q.entry m.sessionId).backlog ≠ [] := by
      intro hnone
      rw [isFull, waitingCount, waiting, hnone] at hfull
      cases hmax : q.maxBacklog with
      | none =>
          rw [hmax] at hfull
          cases hfull
      | some capacity =>
          rw [hmax] at hfull hroom
          have hzero : capacity ≤ 0 := of_decide_eq_true hfull
          exact hroom (congrArg some (Nat.le_zero.mp hzero))
    rw [QueueEntry.isIdle, Bool.and_eq_false_iff, List.isEmpty_eq_false_iff]
    exact Or.inr hne
  · rw [if_neg hfull]
    refine h.set m.sessionId ?_
    rw [QueueEntry.isIdle, Bool.and_eq_false_iff, List.isEmpty_eq_false_iff]
    exact Or.inr (insertByPriority_ne_nil m _)

theorem Tidy.take (h : q.Tidy) (id : SessionId) : (q.take id).2.Tidy := by
  rw [QueueManager.take]
  split
  · exact h
  · exact h.put id _

/-! ## Who is busy -/

theorem isBusy_offer (q : QueueManager) (m : QueuedMessage) (id : SessionId) :
    (q.offer m).2.isBusy id = q.isBusy id := by
  rw [isBusy, entry_offer]
  split
  next hid =>
    rw [hid]
    split <;> rfl
  next => rfl

theorem isBusy_take (q : QueueManager) (id id' : SessionId) :
    (q.take id).2.isBusy id' = q.isBusy id' := by
  rw [isBusy, entry_take]
  split
  next hid =>
    rw [hid]
    rfl
  next => rfl

end QueueManager

/-! ## Requests -/

/-- What may be done with a queue and the leases on it. -/
inductive LeaseRequest where
  /-- Takes the lease of a session and keeps it under a name. -/
  | lease (name : String) (id : SessionId)
  | drop (name : String)
  /-- The prompt is queued or refused. -/
  | offer (m : QueuedMessage)
  | take (id : SessionId)
  | clear (id : SessionId)
  deriving DecidableEq

namespace LeaseBook

/-- A request: the book afterwards, and the warnings that were made. -/
def perform (k : LeaseBook) : LeaseRequest → LeaseBook × List Warning
  | .lease name id => (k.lease? name id).getD (k, [])
  | .drop name => k.drop name
  | .offer m => ({ k with queue := (k.queue.offer m).2 }, [])
  | .take id => ({ k with queue := (k.queue.take id).2 }, [])
  | .clear id => ({ k with queue := k.queue.clear id }, [])

/-- All requests, one after the other. -/
def performAll (k : LeaseBook) : List LeaseRequest → LeaseBook × List Warning
  | [] => (k, [])
  | r :: rest =>
      let (later, warnings) := (k.perform r).1.performAll rest
      (later, (k.perform r).2 ++ warnings)

/-- The sessions of the live leases. -/
def leased (k : LeaseBook) : List SessionId :=
  k.leases.map Prod.snd

/-- Who is busy is who is leased; `taken` are the sessions whose leases are not in the book yet. -/
structure Sound (taken : List SessionId) (k : LeaseBook) : Prop where
  tidy : k.queue.Tidy
  room : k.queue.maxBacklog ≠ some 0
  /-- A name stands for one lease. -/
  named : (k.leases.map Prod.fst).Nodup
  /-- A session is leased once. -/
  once : (taken ++ k.leased).Nodup
  busy : ∀ id, k.queue.isBusy id = true ↔ id ∈ taken ++ k.leased

variable {k : LeaseBook} {taken : List SessionId}

theorem sound_empty {maxBacklog : Option Nat} (hroom : maxBacklog ≠ some 0) :
    (empty maxBacklog).Sound [] where
  tidy := QueueManager.tidy_empty maxBacklog
  room := hroom
  named := List.nodup_nil
  once := List.nodup_nil
  busy := fun _ => by simp [empty, leased, QueueManager.isBusy, QueueManager.entry,
    QueueManager.empty, Dict.get?, Dict.empty, Entries.get?, QueueEntry.idle]

/-- A change of the queue that keeps who is busy. -/
theorem Sound.requeue (h : k.Sound taken) {q : QueueManager} (htidy : q.Tidy)
    (hmax : q.maxBacklog = k.queue.maxBacklog)
    (hbusy : ∀ id, q.isBusy id = k.queue.isBusy id) : Sound taken { k with queue := q } where
  tidy := htidy
  room := by rw [hmax]; exact h.room
  named := h.named
  once := h.once
  busy := fun id => by rw [hbusy]; exact h.busy id

/-! ## The lease of a name -/

theorem split_of_held? {name : String} {id : SessionId} (h : k.held? name = some id) :
    ∃ before after, k.leases = before ++ (name, id) :: after := by
  obtain ⟨before, after, hsplit, -⟩ := List.lookup_eq_some_iff.mp h
  exact ⟨before, after, hsplit⟩

theorem mem_leased_iff (hnamed : (k.leases.map Prod.fst).Nodup) {id : SessionId} :
    id ∈ k.leased ↔ ∃ name, k.held? name = some id := by
  constructor
  · intro hleased
    obtain ⟨⟨name, _⟩, hlease, rfl⟩ := List.mem_map.mp hleased
    obtain ⟨before, after, hsplit⟩ := List.append_of_mem hlease
    refine ⟨name, List.lookup_eq_some_iff.mpr ⟨before, after, hsplit, fun l hl => ?_⟩⟩
    rw [hsplit, List.map_append] at hnamed
    have hother := (List.nodup_append.mp hnamed).2.2 l.1 (List.mem_map_of_mem hl) name
      List.mem_cons_self
    exact bne_iff_ne.mpr (Ne.symm hother)
  · rintro ⟨name, hheld⟩
    obtain ⟨before, after, hsplit⟩ := split_of_held? hheld
    rw [leased, hsplit]
    exact List.mem_map_of_mem (List.mem_append_right _ List.mem_cons_self)

/-- The lease under a name is one of the leases, and the others are under other names. -/
theorem perm_leased_filter (hnamed : (k.leases.map Prod.fst).Nodup) {name : String}
    {id : SessionId} (h : k.held? name = some id) :
    k.leased.Perm (id :: (k.leases.filter fun l => l.1 != name).map Prod.snd) := by
  obtain ⟨before, after, hsplit⟩ := split_of_held? h
  have hkept : (k.leases.filter fun l => l.1 != name) = before ++ after := by
    rw [hsplit, List.map_append, List.map_cons] at hnamed
    have hother : name ∉ (before ++ after).map Prod.fst := by
      rw [List.map_append]
      exact (List.nodup_cons.mp (List.perm_middle.nodup_iff.mp hnamed)).1
    rw [hsplit, List.filter_append, List.filter_cons_of_neg (by simp), ← List.filter_append]
    refine List.filter_eq_self.mpr fun l hl => bne_iff_ne.mpr fun hsame => hother ?_
    rw [← hsame]
    exact List.mem_map_of_mem hl
  rw [hkept, leased, hsplit, List.map_append, List.map_append]
  exact List.perm_middle

@[simp] theorem leases_release (k : LeaseBook) (id : SessionId) :
    (k.release id).1.leases = k.leases := by
  rw [release]
  split <;> rfl

/-- After a name was dropped no lease is under it. -/
theorem not_mem_names_drop (k : LeaseBook) (name : String) :
    name ∉ (k.drop name).1.leases.map Prod.fst := by
  rw [drop]
  cases hheld : k.held? name with
  | none =>
      intro hmem
      obtain ⟨l, hl, rfl⟩ := List.mem_map.mp hmem
      have hother := List.lookup_eq_none_iff.mp hheld l hl
      exact bne_iff_ne.mp hother rfl
  | some id =>
      intro hmem
      rw [leases_release] at hmem
      obtain ⟨l, hl, hname⟩ := List.mem_map.mp hmem
      exact bne_iff_ne.mp (List.mem_filter.mp hl).2 hname

/-! ## What each request keeps -/

/-- Whoever drops a lease held it, so there is nothing to warn of. -/
theorem Sound.drop (h : k.Sound taken) (name : String) :
    (k.drop name).1.Sound taken ∧ (k.drop name).2 = [] := by
  rw [LeaseBook.drop]
  cases hheld : k.held? name with
  | none => exact ⟨h, rfl⟩
  | some id =>
      have hperm : (taken ++ k.leased).Perm
          (id :: (taken ++ (k.leases.filter fun l => l.1 != name).map Prod.snd)) :=
        ((perm_leased_filter h.named hheld).append_left taken).trans List.perm_middle
      have hbusy : (k.queue.entry id).busy = true :=
        (h.busy id).mpr (hperm.mem_iff.mpr List.mem_cons_self)
      have hrelease : k.queue.release? id =
          some (k.queue.put id { k.queue.entry id with busy := false }) := by
        rw [QueueManager.release?, if_pos hbusy]
      obtain ⟨hgone, honce⟩ := List.nodup_cons.mp (hperm.nodup_iff.mp h.once)
      dsimp only
      rw [release, hrelease]
      refine ⟨⟨h.tidy.put id _, h.room, ?_, honce, fun id' => ?_⟩, rfl⟩
      · exact h.named.sublist (List.filter_sublist.map Prod.fst)
      · have hbefore := h.busy id'
        rw [hperm.mem_iff, List.mem_cons] at hbefore
        rw [QueueManager.isBusy_put]
        by_cases hid : id' = id
        · rw [if_pos hid, hid]
          exact iff_of_false Bool.false_ne_true hgone
        · rw [if_neg hid, hbefore]
          exact or_iff_right hid

/-- A lease is taken of an idle session only, and the lease that had the name is dropped. -/
theorem Sound.lease? (h : k.Sound []) (name : String) (id : SessionId) {k' : LeaseBook}
    {warnings : List Warning} (hlease : k.lease? name id = some (k', warnings)) :
    k'.Sound [] ∧ warnings = [] := by
  rw [LeaseBook.lease?, QueueManager.acquire?_eq] at hlease
  by_cases hidle : k.queue.isBusy id = true
  · rw [if_pos hidle] at hlease
    cases hlease
  · rw [if_neg hidle] at hlease
    have hfree : id ∉ k.leased := mt (h.busy id).mpr hidle
    have htaken : Sound [id]
        { k with queue := k.queue.put id { k.queue.entry id with busy := true } } := by
      have honce : (id :: k.leased).Nodup := List.nodup_cons.mpr ⟨hfree, h.once⟩
      refine ⟨h.tidy.put id _, h.room, h.named, honce, fun id' => ?_⟩
      rw [QueueManager.isBusy_put]
      by_cases hid : id' = id
      · rw [if_pos hid, hid]
        exact iff_of_true rfl List.mem_cons_self
      · rw [if_neg hid]
        refine (h.busy id').trans ?_
        exact (List.mem_cons.trans (or_iff_right hid)).symm
    obtain ⟨hdropped, hquiet⟩ := htaken.drop name
    have hname := not_mem_names_drop
      { k with queue := k.queue.put id { k.queue.entry id with busy := true } } name
    cases hlease
    exact ⟨⟨hdropped.tidy, hdropped.room, List.nodup_cons.mpr ⟨hname, hdropped.named⟩,
      hdropped.once, hdropped.busy⟩, hquiet⟩

theorem Sound.perform (h : k.Sound []) (r : LeaseRequest) :
    (k.perform r).1.Sound [] ∧ (k.perform r).2 = [] := by
  cases r with
  | lease name id =>
      rw [LeaseBook.perform]
      cases hlease : k.lease? name id with
      | none => exact ⟨h, rfl⟩
      | some taken => exact h.lease? name id hlease
  | drop name => exact h.drop name
  | offer m =>
      exact ⟨h.requeue (h.tidy.offer h.room m) (k.queue.maxBacklog_offer m)
        (k.queue.isBusy_offer m), rfl⟩
  | take id =>
      exact ⟨h.requeue (h.tidy.take id) (k.queue.maxBacklog_take id)
        (k.queue.isBusy_take id), rfl⟩
  | clear id =>
      exact ⟨h.requeue (h.tidy.put id _) rfl (k.queue.isBusy_clear id), rfl⟩

theorem Sound.performAll (h : k.Sound []) (requests : List LeaseRequest) :
    (k.performAll requests).1.Sound [] ∧ (k.performAll requests).2 = [] := by
  induction requests generalizing k with
  | nil => exact ⟨h, rfl⟩
  | cons r rest ih =>
      obtain ⟨hstep, hquiet⟩ := h.perform r
      obtain ⟨hrest, hquiets⟩ := ih hstep
      refine ⟨hrest, ?_⟩
      rw [LeaseBook.performAll, hquiet]
      exact hquiets

/-! ## All requests -/

/-- **A lease is exclusive, and no entry outlives its use.** Where at least one prompt may wait,
whatever is asked in whatever order: a session is leased at most once and is busy exactly while it
is leased, so that another lease of it is refused; nobody gives up what was not taken; and every
entry that is kept is busy or has a backlog, so that nothing is kept about a session that is idle
with nothing waiting. -/
theorem leases_are_exclusive_and_entries_are_used {maxBacklog : Option Nat}
    (hroom : maxBacklog ≠ some 0) (requests : List LeaseRequest) :
    let k := ((empty maxBacklog).performAll requests).1
    ((empty maxBacklog).performAll requests).2 = [] ∧
      (∀ name, (k.drop name).2 = []) ∧
      (∀ id, (k.leases.map Prod.snd).count id ≤ 1) ∧
      (∀ id, k.queue.isBusy id = true ↔ ∃ name, k.held? name = some id) ∧
      (∀ name id, k.lease? name id = none ↔ ∃ holder, k.held? holder = some id) ∧
      (∀ text e, k.queue.entries.get? text = some e → e.busy = true ∨ e.backlog ≠ []) ∧
      ∀ id, k.queue.isBusy id = false → k.queue.waiting id = [] →
        k.queue.entries.get? id.text = none := by
  obtain ⟨hsound, hquiet⟩ := (sound_empty hroom).performAll requests
  intro k
  have hbusy (id : SessionId) : k.queue.isBusy id = true ↔ ∃ name, k.held? name = some id :=
    (hsound.busy id).trans (mem_leased_iff hsound.named)
  refine ⟨hquiet, fun name => (hsound.drop name).2, ?_, hbusy, fun name id => ?_,
    fun text e hfound => ?_, fun id => hsound.tidy.get?_eq_none⟩
  · exact List.nodup_iff_count.mp hsound.once
  · rw [← hbusy id, lease?, QueueManager.acquire?_eq, Option.map_eq_none_iff]
    split <;> simp_all
  · have hkept := hsound.tidy text e hfound
    rw [QueueEntry.isIdle, Bool.and_eq_false_iff, List.isEmpty_eq_false_iff] at hkept
    exact hkept.imp_left fun hbusy => by simpa using hbusy

/-- Two prompts are offered to a leased session where one may wait; the lease is dropped, taken
again under another name, and the waiting prompt is taken out. -/
theorem leases_are_exclusive_where_one_may_wait :
    let id : SessionId := ⟨"s"⟩
    let m : QueuedMessage := ⟨⟨"m"⟩, id, "go on", .normal, .empty, ⟨0, 0⟩⟩
    let k := ((empty (some 1)).performAll [.lease "a" id, .offer m, .offer m, .drop "a",
      .lease "b" id, .take id]).1
    (k.leases.map Prod.snd).count id ≤ 1 ∧ k.queue.isBusy id = true ∧
      k.lease? "c" id = none ∧ (k.drop "b").2 = [] ∧
      (k.drop "b").1.queue.entries.get? "s" = none := by
  intro id m k
  obtain ⟨-, hquiet, honce, hbusy, hleased, -⟩ :=
    leases_are_exclusive_and_entries_are_used (show some 1 ≠ some 0 by decide)
      [.lease "a" id, .offer m, .offer m, .drop "a", .lease "b" id, .take id]
  have hheld : ∃ name, k.held? name = some id := ⟨"b", by decide⟩
  exact ⟨honce id, (hbusy id).mpr hheld, (hleased "c" id).mpr hheld, hquiet "b", by decide⟩

/-- Where no prompt may wait, a prompt that is refused leaves an entry that nobody drops. -/
example :
    let m : QueuedMessage := ⟨⟨"m"⟩, ⟨"s"⟩, "go on", .normal, .empty, ⟨0, 0⟩⟩
    ((empty (some 0)).performAll [.offer m]).1.queue.entries.get? "s" = some .idle := by
  decide

end LeaseBook

end AgentSessions
