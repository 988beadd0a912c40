import AgentSessions.Proofs.Orchestration.Operations

/-!
# What is done elsewhere

An operation for one session leaves every other session alone: who is at work on it, what waits for
it, what is stored of it, the work that is under way for it, and whether the token of its engine is
tripped (`Floor.Spares`). The desk has an entry of its own for every session, a save replaces the
snapshot of one session, and a cancellation trips the token that is entered for its session, which
is the token of no other engine. The tokens that were minted and the drains that wait to be started
are shared; a fresh token is tripped for nobody, and a drain is started for the session of the step
that wants it.
-/

set_option autoImplicit false

namespace AgentSessions

/-! ## At the desk -/

/-- The drains that wait to be started for a session. -/
def Desk.drainsFor (d : Desk) (id : SessionId) : List SessionId :=
  d.drains.filter fun other => decide (other = id)

theorem Desk.drainsFor_congr {d d' : Desk} (h : d'.drains = d.drains) (id : SessionId) :
    d'.drainsFor id = d.drainsFor id :=
  congrArg (List.filter fun other => decide (other = id)) h

theorem Desk.drainsFor_handToDrain (d : Desk) (id id' : SessionId) :
    (d.handToDrain id').drainsFor id = d.drainsFor id ++ if id' = id then [id'] else [] := by
  show (d.drains ++ [id']).filter _ = _
  rw [List.filter_append, List.filter_singleton]
  by_cases h : id' = id
  · rw [if_pos h, decide_eq_true h]
    rfl
  · rw [if_neg h, decide_eq_false h]
    rfl

/-- All that concerns a session is the same at two desks. -/
structure Desk.Spares (id : SessionId) (d d' : Desk) : Prop where
  same : Floor.SameAt id d d'
  limit : d'.queue.maxBacklog = d.queue.maxBacklog
  drains : d'.drainsFor id = d.drainsFor id

theorem QueueManager.maxBacklog_release (q : QueueManager) (id : SessionId) :
    (q.release id).maxBacklog = q.maxBacklog := by
  unfold release release?
  dsimp only
  split <;> rfl

namespace Desk

variable {id : SessionId} {d d' : Desk}

theorem spares_of_queue (hqueue : d'.queue = d.queue) (hdrains : d'.drains = d.drains) :
    d.Spares id d' := by
  refine ⟨Floor.sameAt_of_queue hqueue, ?_, ?_⟩
  · rw [hqueue]
  · exact drainsFor_congr hdrains id

theorem spares_receive (d : Desk) (m : QueuedMessage) (queueIfBusy : Bool)
    (hne : id ≠ m.sessionId) : d.Spares id (d.receive m queueIfBusy).2 := by
  refine ⟨Floor.sameAt_receive d m queueIfBusy hne, ?_, ?_⟩
  all_goals
    have hreceives := d.receives m queueIfBusy
    generalize d.receive m queueIfBusy = result at hreceives
    cases hreceives with
    | granted | busy | full | queued => rfl

end Desk

namespace Activity

variable {id : SessionId} {a : Activity} {d d' : Desk}

theorem Leaves.spares (h : a.Leaves d d') (hne : id ≠ a.session) : d.Spares id d' := by
  refine ⟨Floor.sameAt_leaves h hne, ?_, ?_⟩
  · cases h with
    | releases =>
        show ((a.dropEngine d).queue.release a.session).maxBacklog = _
        rw [QueueManager.maxBacklog_release, dropEngine_queue]
    | handsOver =>
        show (a.dropEngine d).queue.maxBacklog = _
        rw [dropEngine_queue]
  · cases h with
    | releases => exact Desk.drainsFor_congr (a.dropEngine_drains d) id
    | handsOver =>
        -- the drain is for the session of the activity
        rw [Desk.drainsFor_handToDrain, if_neg hne.symm, List.append_nil]
        exact Desk.drainsFor_congr (a.dropEngine_drains d) id

theorem Moves.spares {fresh : Token} {answer : Answer} {result : Course × Desk}
    (h : a.Moves fresh answer d result) (hne : id ≠ a.session) : d.Spares id result.2 := by
  cases h with
  | runs | wipes => exact Desk.spares_of_queue rfl rfl
  | takes hdrain hw =>
      refine ⟨Floor.sameAt_moves (.takes hdrain hw : a.Moves fresh answer d _) hne, ?_, ?_⟩
      · show ((a.dropEngine d).queue.put _ _).maxBacklog = _
        rw [dropEngine_queue]
        rfl
      · exact Desk.drainsFor_congr (a.dropEngine_drains d) id
  | ends report hleaves => exact hleaves.spares hne

theorem spares_abandon (a : Activity) (d : Desk) (hne : id ≠ a.session) :
    d.Spares id (a.abandon d) := by
  by_cases hdrain : a.worker = .drain
  · refine ⟨Floor.sameAt_abandon a d hne, ?_, ?_⟩
    · rw [queue_abandon_drain hdrain, QueueManager.maxBacklog_release]
    · rw [abandon_drain hdrain]
      exact Desk.drainsFor_congr (a.dropEngine_drains d) id
  · exact (leaves_abandon hdrain d).spares hne

end Activity

/-! ## On the floor -/

namespace Floor

/-- All that concerns a session is the same on two floors. -/
structure Spares (id : SessionId) (f f' : Floor) : Prop where
  desk : f.desk.Spares id f'.desk
  store : f'.store id = f.store id
  works : f'.worksOn id = f.worksOn id
  tripped : ∀ u ∈ f.worksOn id, ∀ token, u.pending.engine? = some token →
    (token ∈ f'.tripped ↔ token ∈ f.tripped)

theorem mem_worksOn {f : Floor} {id : SessionId} {u : Underway} :
    u ∈ f.worksOn id ↔ u ∈ f.underway ∧ u.activity.session = id := by
  unfold worksOn
  rw [List.mem_filter, decide_eq_true_iff]

theorem worksOn_settle (f : Floor) (id : SessionId) :
    f.settle.worksOn id =
      f.worksOn id ++ (f.desk.drainsFor id).map fun id => ⟨.drain id, .turn⟩ := by
  show (f.underway ++ _).filter _ = _
  rw [List.filter_append, List.filter_map]
  rfl

section

variable {setup : Engine.Setup} {id : SessionId} {f g : Floor}

theorem session_of_mem_admitted {m : QueuedMessage} {admission : Admission} {u : Underway}
    (hu : u ∈ admitted m admission) : u.activity.session = m.sessionId := by
  cases admission with
  | granted => rw [List.mem_singleton.mp hu]; rfl
  | busy | full | queued => cases hu

theorem spares_self (id : SessionId) (f : Floor) : f.Spares id f :=
  ⟨Desk.spares_of_queue rfl rfl, rfl, rfl, fun _ _ _ _ => Iff.rfl⟩

/-- Drains that are started are for the sessions whose leases were handed over. -/
theorem Spares.settle (h : f.Spares id g) (hdrains : f.desk.drains = []) :
    f.Spares id g.settle := by
  have hnone : g.desk.drainsFor id = [] := by
    rw [h.desk.drains, Desk.drainsFor, hdrains, List.filter_nil]
  refine ⟨⟨h.desk.same, h.desk.limit, ?_⟩, h.store, ?_, h.tripped⟩
  · exact Desk.drainsFor_congr (d := f.desk) hdrains.symm id
  · rw [worksOn_settle, hnone, List.map_nil, List.append_nil, h.works]

/-- Work comes in that is for another session. -/
theorem spares_more {new : List Underway} (hnew : ∀ u ∈ new, u.activity.session ≠ id)
    (hunderway : g.underway = f.underway ++ new) (hdesk : f.desk.Spares id g.desk)
    (hstore : g.store = f.store) (htripped : g.tripped = f.tripped) : f.Spares id g := by
  have hnone : (new.filter fun u => decide (u.activity.session = id)) = [] :=
    List.filter_eq_nil_iff.mpr fun u hu => by simpa using hnew u hu
  refine ⟨hdesk, ?_, ?_, fun _ _ _ _ => ?_⟩
  · rw [hstore]
  · rw [worksOn, hunderway, List.filter_append, hnone, List.append_nil, worksOn]
  · rw [htripped]

/-- Work on another session goes on as `new`, or ends. -/
theorem spares_replace {u : Underway} {before new after : List Underway}
    (hu : f.underway = before ++ u :: after) (hne : id ≠ u.activity.session)
    (hnew : ∀ v ∈ new, v.activity.session = u.activity.session)
    (hunderway : g.underway = before ++ new ++ after) (hdesk : f.desk.Spares id g.desk)
    (hstore : g.store id = f.store id) (htripped : g.tripped = f.tripped) : f.Spares id g := by
  have hnone : (new.filter fun v => decide (v.activity.session = id)) = [] := by
    refine List.filter_eq_nil_iff.mpr fun v hv => ?_
    rw [hnew v hv]
    simpa using hne.symm
  refine ⟨hdesk, hstore, ?_, fun _ _ _ _ => ?_⟩
  · rw [worksOn, worksOn, hunderway, hu, List.filter_append, List.filter_append, hnone,
      List.filter_append, List.filter_cons_of_neg (by simpa using hne.symm), List.append_nil]
  · rw [htripped]

theorem InOrder.spares_advance (h : f.InOrder) {u : Underway} {before after : List Underway}
    {answer : Answer} (hu : f.underway = before ++ u :: after) (hne : id ≠ u.activity.session)
    (hanswer : u.pending.answer? = some answer) :
    f.Spares id (f.advance setup u.activity answer (before, after)).2 := by
  have hfits := h.leases.fits u (mem_of_split hu)
  have hmoves := hfits.moves hanswer ⟨f.nextToken⟩ f.desk
  rw [Floor.advance]
  generalize u.activity.advance ⟨f.nextToken⟩ answer f.desk = result at hmoves
  obtain ⟨course, desk⟩ := result
  have hnext := hfits.underway setup hmoves
  refine Spares.settle ?_ h.drains
  exact spares_replace hu hne (fun v hv => (hnext v hv).2) rfl (hmoves.spares hne) rfl rfl

theorem InOrder.spares_goOn (h : f.InOrder) (o : Oracle) (now : Instant) {u : Underway}
    {before after : List Underway} (hu : f.underway = before ++ u :: after)
    (hne : id ≠ u.activity.session) :
    f.Spares id (goOn setup o now f u (before, after)).2 := by
  obtain ⟨a, pending⟩ := u
  have hsame : ∀ pending', ∀ v ∈ [(⟨a, pending'⟩ : Underway)], v.activity.session = a.session := by
    intro pending' v hv
    rw [List.mem_singleton.mp hv]
  cases pending with
  | turn => exact h.spares_advance hu hne rfl
  | load =>
      have hdesk : f.desk.Spares id f.desk := Desk.spares_of_queue rfl rfl
      exact spares_replace hu hne (hsame (.found (o.load a.session (f.store a.session))))
        (List.append_cons _ _ _) hdesk rfl rfl
  | found result => exact h.spares_advance hu hne rfl
  | engine token rest =>
      cases rest with
      | done answer => exact h.spares_advance hu hne rfl
      | ask question next =>
          -- an engine writes to the store under its own session only
          have hanswered : ∀ answer,
              (f.answered token a.session question answer).2.store id = f.store id ∧
                (f.answered token a.session question answer).2.desk = f.desk ∧
                (f.answered token a.session question answer).2.tripped = f.tripped := by
            intro answer
            unfold Floor.answered
            split
            · exact ⟨if_neg hne, rfl, rfl⟩
            · exact ⟨rfl, rfl, rfl⟩
          obtain ⟨hstore, hdesk, htripped⟩ :=
            hanswered (o.answer a.session (f.tripped.contains token) now question)
          have hspares : f.desk.Spares id _ :=
            Desk.spares_of_queue (congrArg Desk.queue hdesk) (congrArg Desk.drains hdesk)
          exact spares_replace hu hne (hsame (.engine token (next _))) (List.append_cons _ _ _)
            hspares hstore htripped

theorem InOrder.spares_cancel (h : f.InOrder) {id' : SessionId} (hne : id ≠ id') :
    f.Spares id (f.cancel id') := by
  refine ⟨Desk.spares_of_queue rfl rfl, rfl, rfl, fun u hu token htoken => ?_⟩
  refine ⟨fun htripped => ?_, fun htripped => List.mem_append_right _ htripped⟩
  rcases List.mem_append.mp htripped with hrunning | htripped
  · -- the token that is tripped is that of an engine at work on the other session
    obtain ⟨v, hv, hsession, hstage⟩ := (h.tokens.running id' token).mp (by simpa using hrunning)
    have hengine := h.tokens.engine v hv token hstage
    obtain ⟨hu, hid⟩ := mem_worksOn.mp hu
    have hsame := h.tokens.apart u hu v hv token htoken hengine
    rw [hid, hsession] at hsame
    exact absurd hsame hne
  · exact htripped

/-- **An operation leaves every other session alone.** -/
theorem InOrder.spares_perform (h : f.InOrder) (o : Oracle) {op : Op} (hne : id ≠ op.session) :
    f.Spares id (f.perform setup o op).2 := by
  -- each operation reaches the entry, the work and the token of its own session alone
  cases op with
  | receive m queueIfBusy =>
      have hdesk := f.desk.spares_receive m queueIfBusy hne
      refine Spares.settle (spares_more (fun u hu => ?_) rfl hdesk rfl rfl) h.drains
      rw [session_of_mem_admitted hu]
      exact Ne.symm hne
  | wipe id' =>
      show f.Spares id (f.wipe id')
      rw [Floor.wipe, Desk.lease?_eq]
      by_cases hbusy : f.desk.queue.isBusy id' = true
      · rw [if_pos hbusy]
        exact spares_self id f
      · rw [if_neg hbusy]
        have hleased : f.desk.Spares id (f.desk.leased id') :=
          ⟨⟨(Desk.isBusy_leased _ _ _).trans (if_neg hne), Desk.waiting_leased _ _ _⟩, rfl, rfl⟩
        refine spares_more (fun u hu => ?_) rfl hleased rfl rfl
        rw [List.mem_singleton.mp hu]
        exact Ne.symm hne
  | clear id' =>
      have hcleared : f.desk.Spares id (f.desk.clearBacklog id') :=
        ⟨⟨f.desk.queue.isBusy_clear id' id,
          (f.desk.queue.waiting_clear id' id).trans (if_neg hne)⟩, rfl, rfl⟩
      exact ⟨hcleared, rfl, rfl, fun _ _ _ _ => Iff.rfl⟩
  | cancel id' => exact h.spares_cancel hne
  | goOn id' now =>
      exact atWork_of (P := fun r => f.Spares id r.2) (spares_self id f)
        fun u before after hu hsession => h.spares_goOn o now hu (hsession ▸ hne)
  | cut id' =>
      refine atWork_of (P := fun r => f.Spares id r.2) (spares_self id f) ?_
      intro u before after hu hsession
      have hne' : id ≠ u.activity.session := hsession ▸ hne
      have hrest : before ++ after = before ++ [] ++ after := by
        rw [List.append_nil]
      refine Spares.settle (spares_replace hu hne' (fun v hv => ?_) hrest
        (u.activity.spares_abandon f.desk hne') rfl rfl) h.drains
      cases hv

end

end Floor

end AgentSessions
