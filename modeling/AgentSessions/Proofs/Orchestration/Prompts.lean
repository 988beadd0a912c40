import AgentSessions.Proofs.Orchestration.Changes

/-!
# What becomes of prompts

A prompt that comes in and is not refused runs at once or waits, and one that waits is taken by a
drain or dropped. The log of a floor tells how often each of these was the lot of a prompt
(`times`). The books always balance (`Floor.Accounted`): as many prompts ran at once as were let in
at once, and what was made to wait was taken, was dropped, or still waits.
-/

set_option autoImplicit false

namespace AgentSessions

/-! ## Counting -/

/-- The lot of a prompt. -/
inductive Lot where
  /-- It came in, and its session was free. -/
  | granted
  /-- It came in and was made to wait. -/
  | queued
  /-- It was handed over to a run that holds a lease of its own. -/
  | ran
  /-- It was handed over to a run by a drain. -/
  | drained
  /-- It was dropped while it waited. -/
  | dropped
  deriving DecidableEq

/-- What an entry of the log says of a prompt. -/
def Entry.lot? : Entry → Option (QueuedMessage × Lot)
  | .came m .granted => some (m, .granted)
  | .came m (.queued _ _) => some (m, .queued)
  | .came _ .busy => none
  | .came _ (.full _) => none
  | .handed m .drain => some (m, .drained)
  | .handed m _ => some (m, .ran)
  | .dropped m => some (m, .dropped)
  | .opened _ _ _ => none
  | .saved _ _ _ => none

/-- How often something was the lot of a prompt. -/
def times (log : List Entry) (m : QueuedMessage) (lot : Lot) : Nat :=
  (log.filterMap Entry.lot?).count (m, lot)

theorem times_append (log entries : List Entry) (m : QueuedMessage) (lot : Lot) :
    times (log ++ entries) m lot = times log m lot + times entries m lot := by
  rw [times, List.filterMap_append, List.count_append]
  rfl

theorem times_cons (entry : Entry) (log : List Entry) (m : QueuedMessage) (lot : Lot) :
    times (entry :: log) m lot = times [entry] m lot + times log m lot :=
  times_append [entry] log m lot

theorem times_dropped (waiting : List QueuedMessage) (m : QueuedMessage) (lot : Lot) :
    times (waiting.map .dropped) m lot = if lot = .dropped then waiting.count m else 0 := by
  induction waiting with
  | nil =>
      rw [List.count_nil, ite_self]
      rfl
  | cons m' rest ih =>
      rw [List.map_cons, times_cons, ih, List.count_cons]
      by_cases hlot : lot = .dropped
      · simp [times, Entry.lot?, List.count_cons, hlot]
        omega
      · simp [times, Entry.lot?, Ne.symm hlot, hlot]

namespace Floor

/-! ## Steps that balance -/

/-- What waits for a session is addressed to it. -/
def Addressed (d : Desk) : Prop :=
  ∀ id, ∀ m ∈ d.queue.waiting id, m.sessionId = id

/-- What is noted of a step accounts for what changes in the backlogs. -/
structure Balanced (d : Desk) (entries : List Entry) (d' : Desk) : Prop where
  addressed : Addressed d'
  queued : ∀ m, times entries m .queued + (d.queue.waiting m.sessionId).count m =
    times entries m .drained + times entries m .dropped + (d'.queue.waiting m.sessionId).count m
  granted : ∀ m, times entries m .ran = times entries m .granted

theorem Balanced.same {d d' : Desk} {entries : List Entry} (h : Addressed d)
    (hlots : entries.filterMap Entry.lot? = [])
    (hwaiting : ∀ id, d'.queue.waiting id = d.queue.waiting id) : Balanced d entries d' where
  addressed id m hm := by
    rw [hwaiting] at hm
    exact h id m hm
  queued m := by
    simp only [times, hlots, hwaiting, List.count_nil, Nat.zero_add]
  granted m := by
    simp only [times, hlots, List.count_nil]

theorem Balanced.settle {d : Desk} {entries : List Entry} {f : Floor}
    (h : Balanced d entries f.desk) : Balanced d entries f.settle.desk :=
  ⟨h.addressed, h.queued, h.granted⟩

theorem Balanced.receive {d : Desk} (h : Addressed d) (m : QueuedMessage) (queueIfBusy : Bool) :
    Balanced d ((d.receive m queueIfBusy).1.entries m) (d.receive m queueIfBusy).2 := by
  have hreceives := d.receives m queueIfBusy
  generalize d.receive m queueIfBusy = result at hreceives
  cases hreceives with
  | granted hidle =>
      refine ⟨fun id m' hm' => ?_, fun m' => ?_, fun m' => ?_⟩
      · rw [Desk.waiting_leased] at hm'
        exact h id m' hm'
      · rw [Desk.waiting_leased]
        simp [times, Admission.entries, Entry.lot?]
      · simp [times, Admission.entries, Entry.lot?, List.count_cons]
  | busy hbusy => exact .same h rfl fun _ => rfl
  | full e hbusy => exact .same h rfl fun _ => rfl
  | queued count hbusy =>
      refine ⟨fun id m' hm' => ?_, fun m' => ?_, fun m' => ?_⟩
      · rw [Desk.waiting_queueing] at hm'
        by_cases hid : id = m.sessionId
        · rw [if_pos hid, (QueueManager.perm_insertByPriority m _).mem_iff] at hm'
          rcases List.mem_cons.mp hm' with hm' | hm'
          · rw [hm', hid]
          · exact h id m' hm'
        · rw [if_neg hid] at hm'
          exact h id m' hm'
      · rw [Desk.waiting_queueing]
        by_cases hid : m'.sessionId = m.sessionId
        -- wherever the prompt is put, it is one more among those that wait
        · rw [if_pos hid, (QueueManager.perm_insertByPriority m _).count_eq, List.count_cons]
          simp [times, Admission.entries, Entry.lot?, List.count_cons]
          omega
        · have hm : m ≠ m' := fun heq => hid (heq ▸ rfl)
          simp [times, Admission.entries, Entry.lot?, hid, hm]
      · simp [times, Admission.entries, Entry.lot?]

theorem Balanced.clear {d : Desk} (h : Addressed d) (id : SessionId) :
    Balanced d ((d.queue.waiting id).map .dropped) (d.clearBacklog id) where
  addressed id' m hm := by
    have hwaiting := d.queue.waiting_clear id id'
    change m ∈ (d.queue.clear id).waiting id' at hm
    rw [hwaiting] at hm
    by_cases hid : id' = id
    · rw [if_pos hid] at hm
      cases hm
    · rw [if_neg hid] at hm
      exact h id' m hm
  queued m := by
    show _ = _ + ((d.queue.clear id).waiting m.sessionId).count m
    simp only [times_dropped, QueueManager.waiting_clear, reduceCtorEq, if_false, if_true,
      Nat.zero_add]
    by_cases hid : m.sessionId = id
    · simp [hid]
    -- `m` is for another session, so it was not among what was dropped
    · have hnot : m ∉ d.queue.waiting id := fun hm => hid (h id m hm)
      simp [hid, List.count_eq_zero.mpr hnot]
  granted m := by
    simp only [times_dropped, reduceCtorEq, if_false]

theorem Balanced.advance {u : Underway} (hfits : u.Fits) {d : Desk} (h : Addressed d)
    {answer : Answer} (hanswer : u.pending.answer? = some answer) (token : Token) :
    Balanced d ((u.activity.advance token answer d).1.entries token d)
      (u.activity.advance token answer d).2 := by
  have hmoves := hfits.moves hanswer token d
  generalize u.activity.advance token answer d = result at hmoves
  cases hmoves with
  | runs hstage hans => exact .same h rfl fun _ => rfl
  | wipes hstage hans => exact .same h rfl fun _ => rfl
  | ends report hleaves => exact .same h rfl hleaves.waiting
  | takes hdrain hw =>
      rename_i m rest
      -- the head of the backlog leaves it and is noted as handed over
      have hentries : (u.activity.load m.prompt).entries token d = [.handed m .drain] := by
        show ((d.queue.waiting u.activity.session).take 1).map _ = _
        rw [hw, ← hdrain]
        rfl
      have hm : m.sessionId = u.activity.session := by
        refine h u.activity.session m ?_
        rw [hw]
        exact List.mem_cons_self
      rw [hentries]
      refine ⟨fun id m' hm' => ?_, fun m' => ?_, fun m' => ?_⟩
      · rw [Desk.waiting_afterTaking, Activity.dropEngine_queue] at hm'
        by_cases hid : id = u.activity.session
        · rw [if_pos hid] at hm'
          rw [hid]
          exact h u.activity.session m' (List.mem_of_mem_tail hm')
        · rw [if_neg hid] at hm'
          exact h id m' hm'
      · rw [Desk.waiting_afterTaking, Activity.dropEngine_queue, hw]
        by_cases hid : m'.sessionId = u.activity.session
        · rw [if_pos hid, hid, hw]
          simp [times, Entry.lot?, List.count_cons]
          omega
        · have hne : m ≠ m' := fun heq => hid (heq ▸ hm)
          simp [times, Entry.lot?, hid, hne]
      · simp [times, Entry.lot?]

theorem Balanced.step {setup : Engine.Setup} {isChild : SessionId → Prop} {f f' : Floor}
    {entries : List Entry} (horderly : f.Orderly) (h : Addressed f.desk)
    (hstep : Step setup isChild f entries f') : Balanced f.desk entries f'.desk := by
  cases hstep with
  | receives m queueIfBusy => exact (Balanced.receive h m queueIfBusy).settle
  | wipes id =>
      refine .same h rfl fun id' => ?_
      rw [Floor.wipe, Desk.lease?_eq]
      by_cases hbusy : f.desk.queue.isBusy id = true
      · rw [if_pos hbusy]
      · rw [if_neg hbusy]
        exact f.desk.waiting_leased id id'
  | clears id => exact .clear h id
  | cancels id => exact .same h rfl fun _ => rfl
  | looksUp result hu hresult => exact .same h rfl fun _ => rfl
  | answers answer hu =>
      unfold Floor.answered
      split
      all_goals exact .same h rfl fun _ => rfl
  | advances hu hanswer =>
      have hfits := horderly.fits _ (mem_of_split hu)
      exact (Balanced.advance hfits h hanswer ⟨f.nextToken⟩).settle
  | abandons hu hworker =>
      exact .same h rfl (Activity.leaves_abandon hworker f.desk).waiting
  | childSaves snapshot hchild => exact .same h rfl fun _ => rfl

/-! ## Every floor that is reached -/

/-- The log accounts for every prompt that came in. -/
structure Accounted (log : List Entry) (f : Floor) : Prop where
  addressed : Addressed f.desk
  queued : ∀ m, times log m .queued =
    times log m .drained + times log m .dropped + (f.desk.queue.waiting m.sessionId).count m
  granted : ∀ m, times log m .ran = times log m .granted

theorem Accounted.next {log entries : List Entry} {f f' : Floor} (h : Accounted log f)
    (hbalanced : Balanced f.desk entries f'.desk) : Accounted (log ++ entries) f' where
  addressed := hbalanced.addressed
  queued m := by
    have hlog := h.queued m
    have hentries := hbalanced.queued m
    simp only [times_append]
    omega
  granted m := by
    rw [times_append, times_append, h.granted m, hbalanced.granted m]

variable {setup : Engine.Setup} {isChild : SessionId → Prop} {maxBacklog : Option Nat}
  {store : SessionId → Option Snapshot} {log : List Entry} {f : Floor}

theorem Runs.accounted (h : Runs setup isChild (opening maxBacklog store) log f) :
    Accounted log f := by
  induction h with
  | start => exact ⟨fun _ _ hm => absurd hm List.not_mem_nil, fun _ => rfl, fun _ => rfl⟩
  | step hruns hstep ih => exact ih.next (.step hruns.orderly ih.addressed hstep)

end Floor

end AgentSessions
