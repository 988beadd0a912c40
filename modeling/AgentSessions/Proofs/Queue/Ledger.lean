import AgentSessions.Proofs.Queue.Arrivals
import AgentSessions.Proofs.Queue.Requests

/-!
# A ledger that answers like a queue

The ledger has a row for every session and never drops one: whether somebody is at work, and the
messages that were accepted and not yet taken out, as they arrived. Nothing in it is ordered ahead
of time; the next message is looked for when it is wanted. The sessions it has heard of are listed
in the order in which they were first named.

A queue keeps step with the ledger: each entry, kept or dropped, is the row of its session with the
messages in the order in which they will leave.
-/

set_option autoImplicit false

namespace AgentSessions

open Arrivals (next? drainOrder)

/-! ## The ledger -/

/-- What the ledger says of one session. -/
structure LedgerRow where
  busy : Bool
  /-- The messages that wait, as they arrived. -/
  arrived : List QueuedMessage

namespace LedgerRow

/-- A request about the session of the row. -/
def perform (row : LedgerRow) (maxBacklog : Option Nat) (id : SessionId) :
    SessionRequest → QueueAnswer × LedgerRow
  | .acquire => (.flag (!row.busy), { row with busy := true })
  | .release => (.flag row.busy, { row with busy := false })
  | .enqueue m =>
      if maxBacklog = some row.arrived.length then (.refused (.full id row.arrived.length), row)
      else
        (.queued (m.addressedTo id), { row with arrived := row.arrived ++ [m.addressedTo id] })
  | .dequeue =>
      match next? row.arrived with
      | some m => (.next (some m), { row with arrived := row.arrived.erase m })
      | none => (.next none, row)
  | .clear => (.count row.arrived.length, { row with arrived := [] })
  | .isBusy => (.flag row.busy, row)
  | .waitingCount => (.count row.arrived.length, row)
  | .waiting => (.messages (drainOrder row.arrived), row)

end LedgerRow

/-- A row for every session, the sessions that were named so far, and how many messages may wait
for one of them. -/
structure Ledger where
  row : SessionId → LedgerRow
  named : List SessionId
  /-- The value `none` is without limit. -/
  maxBacklog : Option Nat

namespace Ledger

/-- Nobody is at work and nothing waits. -/
def empty (maxBacklog : Option Nat) : Ledger := ⟨fun _ => ⟨false, []⟩, [], maxBacklog⟩

/-- The ledger with another row for a session. -/
def put (l : Ledger) (id : SessionId) (row : LedgerRow) : Ledger :=
  { l with
    row := fun id' => if id' = id then row else l.row id'
    named := if id ∈ l.named then l.named else l.named ++ [id] }

/-- The sessions on which somebody is at work, sorted. -/
def busySessions (l : Ledger) : List SessionId :=
  (l.named.filter fun id => (l.row id).busy).mergeSort fun a b => decide (a.text ≤ b.text)

/-- A request. -/
def perform (l : Ledger) : QueueRequest → QueueAnswer × Ledger
  | .about id r =>
      let (answer, row) := (l.row id).perform l.maxBacklog id r
      (answer, l.put id row)
  | .busySessions => (.sessions l.busySessions, l)

theorem mem_named_put {l : Ledger} {id id' : SessionId} {row : LedgerRow} :
    id' ∈ (l.put id row).named ↔ id' = id ∨ id' ∈ l.named := by
  rw [put]
  by_cases hnamed : id ∈ l.named
  · simp only [if_pos hnamed]
    exact ⟨Or.inr, fun h => h.elim (fun heq => heq ▸ hnamed) fun hmem => hmem⟩
  · simp [if_neg hnamed, or_comm]

theorem nodup_named_put {l : Ledger} (h : l.named.Nodup) (id : SessionId) (row : LedgerRow) :
    (l.put id row).named.Nodup := by
  rw [put]
  by_cases hnamed : id ∈ l.named
  · simpa only [if_pos hnamed] using h
  · simp only [if_neg hnamed]
    refine List.nodup_append.mpr ⟨h, by simp, fun a ha b hb heq => hnamed ?_⟩
    rw [← List.mem_singleton.mp hb, ← heq]
    exact ha

end Ledger

/-! ## A row and the entry that stands for it -/

namespace LedgerRow

/-- The entry of a queue that says the same as the row. -/
def entry (row : LedgerRow) : QueueEntry := ⟨row.busy, drainOrder row.arrived⟩

/-- No more messages wait than may. -/
def Fits (row : LedgerRow) (maxBacklog : Option Nat) : Prop :=
  ∀ capacity, maxBacklog = some capacity → row.arrived.length ≤ capacity

theorem length_backlog_entry (row : LedgerRow) :
    row.entry.backlog.length = row.arrived.length :=
  (Arrivals.perm_drainOrder row.arrived).length_eq

variable {row : LedgerRow} {maxBacklog : Option Nat}

theorem Fits.isFull_iff (h : row.Fits maxBacklog) :
    (maxBacklog.any fun capacity => decide (capacity ≤ row.entry.backlog.length)) = true ↔
      maxBacklog = some row.entry.backlog.length := by
  rw [length_backlog_entry]
  cases maxBacklog with
  | none => simp
  | some capacity =>
      have hle := h capacity rfl
      simp only [Option.any_some, decide_eq_true_eq, Option.some.injEq]
      omega

/-- A request to a row and to its entry is answered alike, and the two keep saying the same. -/
theorem Fits.perform_entry (h : row.Fits maxBacklog) (id : SessionId) (r : SessionRequest) :
    (row.entry.perform maxBacklog id r).1 = (row.perform maxBacklog id r).1 ∧
      (row.entry.perform maxBacklog id r).2 = (row.perform maxBacklog id r).2.entry := by
  -- a backlog is what arrived, in the order in which it is drained
  cases r with
  | acquire => exact ⟨rfl, rfl⟩
  | release => exact ⟨rfl, rfl⟩
  | enqueue m =>
      have hiff := h.isFull_iff
      rw [row.length_backlog_entry] at hiff
      rw [QueueEntry.perform, perform, row.length_backlog_entry]
      by_cases hfull : maxBacklog = some row.arrived.length
      · rw [if_pos (hiff.mpr hfull), if_pos hfull, hfull]
        exact ⟨rfl, rfl⟩
      · rw [if_neg (mt hiff.mp hfull), if_neg hfull]
        refine ⟨rfl, ?_⟩
        rw [entry, entry, Arrivals.drainOrder_append]
  | dequeue =>
      rw [QueueEntry.perform, perform, entry]
      cases hnext : next? row.arrived with
      | none =>
          rw [Arrivals.next?_eq_none.mp hnext, Arrivals.drainOrder_nil]
          refine ⟨rfl, ?_⟩
          rw [entry, Arrivals.next?_eq_none.mp hnext, Arrivals.drainOrder_nil]
          rfl
      | some m =>
          rw [Arrivals.drainOrder_of_next? hnext]
          exact ⟨rfl, rfl⟩
  | clear =>
      refine ⟨congrArg QueueAnswer.count row.length_backlog_entry, ?_⟩
      rw [QueueEntry.perform, perform, entry, entry, Arrivals.drainOrder_nil]
  | isBusy => exact ⟨rfl, rfl⟩
  | waitingCount => exact ⟨congrArg QueueAnswer.count row.length_backlog_entry, rfl⟩
  | waiting => exact ⟨rfl, rfl⟩

theorem Fits.perform (h : row.Fits maxBacklog) (id : SessionId) (r : SessionRequest) :
    (row.perform maxBacklog id r).2.Fits maxBacklog := by
  intro capacity hcapacity
  have hle := h capacity hcapacity
  cases r with
  | enqueue m =>
      rw [LedgerRow.perform]
      split
      next => exact hle
      next hroom =>
        rw [hcapacity, Option.some.injEq] at hroom
        simp only [List.length_append, List.length_singleton]
        omega
  | dequeue =>
      rw [LedgerRow.perform]
      split
      · exact Nat.le_trans (List.length_erase_le) hle
      · exact hle
  | clear => exact Nat.zero_le capacity
  | _ => exact hle

end LedgerRow

/-! ## A queue that keeps step with the ledger -/

/-- The queue knows what the ledger says, and the ledger has heard of everybody who is at work. -/
structure Ledger.Matches (l : Ledger) (q : QueueManager) : Prop where
  maxBacklog : q.maxBacklog = l.maxBacklog
  entry : ∀ id, q.entry id = (l.row id).entry
  fits : ∀ id, (l.row id).Fits l.maxBacklog
  named : ∀ id, (l.row id).busy = true → id ∈ l.named
  distinct : l.named.Nodup

namespace Ledger

theorem matches_empty (maxBacklog : Option Nat) :
    (Ledger.empty maxBacklog).Matches (QueueManager.empty maxBacklog) where
  maxBacklog := rfl
  entry _ := by
    rw [LedgerRow.entry]
    exact congrArg (QueueEntry.mk false) Arrivals.drainOrder_nil.symm
  fits _ capacity _ := Nat.zero_le capacity
  named _ h := by cases h
  distinct := List.nodup_nil

variable {l : Ledger} {q : QueueManager}

theorem Matches.put (h : l.Matches q) {id : SessionId} {row : LedgerRow} {q' : QueueManager}
    (hfits : row.Fits l.maxBacklog) (hq : q.Becomes id row.entry q') :
    (l.put id row).Matches q' where
  maxBacklog := hq.maxBacklog.trans h.maxBacklog
  entry id' := by
    rw [hq.entry]
    by_cases hid : id' = id
    · simp [Ledger.put, hid]
    · simp [Ledger.put, hid, h.entry]
  fits id' := by
    by_cases hid : id' = id
    · simpa [Ledger.put, hid] using hfits
    · simpa [Ledger.put, hid] using h.fits id'
  named id' hbusy := by
    refine mem_named_put.mpr ?_
    by_cases hid : id' = id
    · exact Or.inl hid
    · exact Or.inr (h.named id' (by simpa [Ledger.put, hid] using hbusy))
  distinct := nodup_named_put h.distinct id row

/-- There is no room exactly when as many messages wait as may. -/
theorem Matches.isFull_iff (h : l.Matches q) (id : SessionId) :
    q.isFull id = true ↔ l.maxBacklog = some (q.waitingCount id) := by
  have hiff := (h.fits id).isFull_iff
  rw [← h.entry] at hiff
  rw [← h.maxBacklog] at hiff ⊢
  refine Iff.trans (Eq.to_iff ?_) hiff
  rw [QueueManager.isFull]
  cases q.maxBacklog <;> rfl

theorem Matches.busySessions (h : l.Matches q) : q.busySessions = l.busySessions := by
  have hsort : (l.busySessions).Perm (l.named.filter fun id => (l.row id).busy) :=
    List.mergeSort_perm _ _
  refine QueueManager.busySessions_eq_of_mem_iff ?_ ?_ fun id => ?_
  · have hordered : l.busySessions.Pairwise fun a b => decide (a.text ≤ b.text) = true := by
      refine List.pairwise_mergeSort (fun a b c hab hbc => ?_) (fun a b => ?_) _
      · rw [decide_eq_true_eq] at hab hbc ⊢
        exact String.le_trans hab hbc
      · simpa using String.le_total a.text b.text
    exact hordered.imp fun hle => of_decide_eq_true hle
  · exact hsort.nodup_iff.mpr (List.Pairwise.filter _ h.distinct)
  · rw [hsort.mem_iff, List.mem_filter, QueueManager.isBusy, h.entry]
    exact ⟨fun hmem => hmem.2, fun hbusy => ⟨h.named id hbusy, hbusy⟩⟩

/-- Every request is answered alike, and the queue keeps step. -/
theorem Matches.perform (h : l.Matches q) (r : QueueRequest) :
    (q.perform r).1 = (l.perform r).1 ∧ (l.perform r).2.Matches (q.perform r).2 := by
  cases r with
  | about id r =>
      obtain ⟨hanswer, hafter⟩ := q.performFor_spec id r
      obtain ⟨hsame, hrow⟩ := (h.fits id).perform_entry id r
      rw [h.entry, h.maxBacklog] at hanswer hafter
      rw [hrow] at hafter
      exact ⟨hanswer.trans hsame, h.put ((h.fits id).perform id r) hafter⟩
  | busySessions => exact ⟨congrArg QueueAnswer.sessions h.busySessions, h⟩

/-- The queue and the ledger give the same transcript of any requests. -/
theorem Matches.transcript_eq (h : l.Matches q) (requests : List QueueRequest) :
    transcript QueueManager.perform q requests = transcript Ledger.perform l requests :=
  transcript_eq_of_related (R := fun q l => l.Matches q) (fun _ _ r hm => hm.perform r) h requests

end Ledger

end AgentSessions
