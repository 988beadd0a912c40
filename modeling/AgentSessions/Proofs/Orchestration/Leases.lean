import AgentSessions.Proofs.Orchestration.Desk
import AgentSessions.Proofs.Orchestration.Floor

/-!
# Leases

Who works on a session holds its lease, and there is one lease for a session. On every floor that is
reached by steps, a session is busy when exactly one activity is under way for it and is idle when
none is, and an idle session has an empty backlog (`Floor.Orderly`). So nothing waits with nobody to
run it, whatever comes in, fails, ends or is abandoned, in whatever order. What a step keeps is said
once for floors on which some backlogs may be left behind (`Floor.OrderlyBut`).
-/

set_option autoImplicit false

namespace AgentSessions

/-! ## Activities and their waits -/

/-- The activity is at the stage at which one of its kind waits for what it waits for. -/
inductive Underway.Fits : Underway → Prop where
  | opening (id : SessionId) : Fits ⟨.drain id, .turn⟩
  | loading {id : SessionId} {worker : Worker} (prompt : String) :
      worker ≠ .wiper → Fits ⟨⟨id, worker, .loading prompt⟩, .load⟩
  | loaded {id : SessionId} {worker : Worker} (prompt : String)
      (result : Except StoreError (Option Snapshot)) :
      worker ≠ .wiper → Fits ⟨⟨id, worker, .loading prompt⟩, .found result⟩
  | running {id : SessionId} {worker : Worker} (token engine : Token) {rest : Dialogue Answer} :
      worker ≠ .wiper → rest.Yields (fun answer => ∃ result, answer = .ran result) →
      Fits ⟨⟨id, worker, .running token⟩, .engine engine rest⟩
  | loadingToWipe (id : SessionId) : Fits ⟨.wiper id, .load⟩
  | loadedToWipe (id : SessionId) (result : Except StoreError (Option Snapshot)) :
      Fits ⟨.wiper id, .found result⟩
  | wiping (id : SessionId) (engine : Token) {rest : Dialogue Answer} :
      rest.Yields (fun answer => ∃ result, answer = .wiped result) →
      Fits ⟨⟨id, .wiper, .wiping⟩, .engine engine rest⟩

theorem Underway.Fits.moves {u : Underway} (hfits : u.Fits) {answer : Answer}
    (hanswer : u.pending.answer? = some answer) (token : Token) (d : Desk) :
    u.activity.Moves token answer d (u.activity.advance token answer d) := by
  cases hfits with
  -- the stage and the wait leave one answer for each case, so the activity knows what to do with it
  | opening id =>
      cases hanswer
      exact Activity.moves_takeNext rfl token .ready d
  | loading prompt hw => cases hanswer
  | loaded prompt result hw =>
      cases hanswer
      cases result with
      | error e => exact Activity.moves_afterPrompt _ token _ (.error (.store e)) d
      | ok snapshot => exact .runs rfl rfl
  | running t engine hw hyields =>
      rename_i rest
      cases rest with
      | ask question next => cases hanswer
      | done a =>
          cases hanswer
          obtain ⟨result, rfl⟩ := hyields
          exact Activity.moves_afterPrompt _ token _ result d
  | loadingToWipe id => cases hanswer
  | loadedToWipe id result =>
      cases hanswer
      cases result with
      | error e => exact .ends _ (Activity.leaves_handOff _ d)
      | ok snapshot => exact .wipes rfl rfl
  | wiping id engine hyields =>
      rename_i rest
      cases rest with
      | ask question next => cases hanswer
      | done a =>
          cases hanswer
          obtain ⟨result, rfl⟩ := hyields
          exact .ends _ (Activity.leaves_handOff _ d)

theorem Underway.Fits.found {a : Activity} (hfits : Underway.Fits ⟨a, .load⟩)
    (result : Except StoreError (Option Snapshot)) : Underway.Fits ⟨a, .found result⟩ := by
  cases hfits with
  | loading prompt hw => exact .loaded prompt result hw
  | loadingToWipe id => exact .loadedToWipe id result

theorem Underway.Fits.answered {a : Activity} {engine : Token} {question : Engine.Ask}
    {next : question.Answer → Dialogue Answer}
    (hfits : Underway.Fits ⟨a, .engine engine (.ask question next)⟩)
    (answer : question.Answer) : Underway.Fits ⟨a, .engine engine (next answer)⟩ := by
  cases hfits with
  | running token _ hw hyields => exact .running token engine hw (hyields.next answer)
  | wiping id _ hyields => exact .wiping id engine (hyields.next answer)

theorem Underway.Fits.not_wiper {u : Underway} (hfits : u.Fits) {prompt : String}
    (hstage : u.activity.stage = .loading prompt) : u.activity.worker ≠ .wiper := by
  cases hfits with
  | loading prompt hw => exact hw
  | loaded prompt result hw => exact hw
  | opening | running | loadingToWipe | loadedToWipe | wiping => cases hstage

theorem Underway.Fits.wiper {u : Underway} (hfits : u.Fits)
    (hstage : u.activity.stage = .loadingToWipe) : u.activity.worker = .wiper := by
  cases hfits with
  | loadingToWipe id => rfl
  | loadedToWipe id result => rfl
  | opening | loading | loaded | running | wiping => cases hstage

/-- What goes on after a step is at the right stage again. -/
theorem Underway.Fits.underway {u : Underway} (hfits : u.Fits) (setup : Engine.Setup)
    {token : Token} {answer : Answer} {d d' : Desk} {course : Course}
    (hmoves : u.activity.Moves token answer d (course, d')) :
    ∀ v ∈ course.underway setup token, v.Fits ∧ v.activity.session = u.activity.session := by
  intro v hv
  cases hmoves with
  | runs hstage hans =>
      obtain rfl := List.mem_singleton.mp hv
      exact ⟨.running token token (hfits.not_wiper hstage)
        (Dialogue.yields_bind fun c => ⟨c.2, rfl⟩), rfl⟩
  | wipes hstage hans =>
      obtain rfl := List.mem_singleton.mp hv
      have hw := hfits.wiper hstage
      refine ⟨?_, rfl⟩
      show Fits ⟨⟨u.activity.session, u.activity.worker, .wiping⟩, _⟩
      rw [hw]
      exact .wiping _ token (Dialogue.yields_bind fun c => ⟨c.2, rfl⟩)
  | takes hdrain hw =>
      obtain rfl := List.mem_singleton.mp hv
      refine ⟨.loading _ ?_, rfl⟩
      rw [hdrain]
      exact Worker.noConfusion
  | ends => cases hv

namespace Floor

/-! ## Who holds a lease -/

/-- How many hold the lease of a session, drains that are yet to be started included. -/
def holders (f : Floor) (id : SessionId) : Nat :=
  f.underway.countP (fun u => u.activity.session = id) + f.desk.drains.count id

/-- Every lease that is out has one holder, what waits has somebody to run it, and all are at the
right stages. -/
structure Orderly (f : Floor) : Prop where
  holders : ∀ id, f.holders id = if f.desk.queue.isBusy id then 1 else 0
  waiting : ∀ id, f.desk.queue.isBusy id = false → f.desk.queue.waiting id = []
  fits : ∀ u ∈ f.underway, u.Fits

/-- As on an orderly floor, but some sessions may be left with prompts that nobody will run. -/
structure OrderlyBut (left : SessionId → Prop) (f : Floor) : Prop where
  holders : ∀ id, f.holders id = if f.desk.queue.isBusy id then 1 else 0
  waiting : ∀ id, ¬left id → f.desk.queue.isBusy id = false → f.desk.queue.waiting id = []
  fits : ∀ u ∈ f.underway, u.Fits

theorem Orderly.but {f : Floor} (h : f.Orderly) (left : SessionId → Prop) : f.OrderlyBut left :=
  ⟨h.holders, fun id _ => h.waiting id, h.fits⟩

/-- A floor is orderly when no session may be left. -/
theorem OrderlyBut.orderly {f : Floor} (h : f.OrderlyBut fun _ => False) : f.Orderly :=
  ⟨h.holders, fun id => h.waiting id not_false, h.fits⟩

section

variable {left : SessionId → Prop}

theorem countP_drains (drains : List SessionId) (id : SessionId) :
    (drains.map fun id => (⟨.drain id, .turn⟩ : Underway)).countP
      (fun u => u.activity.session = id) = drains.count id := by
  rw [List.countP_map, List.count]
  congr 1

theorem OrderlyBut.settle {f : Floor} (h : f.OrderlyBut left) : f.settle.OrderlyBut left where
  holders id := by
    have hsame : f.settle.holders id = f.holders id := by
      show (f.underway ++ _).countP _ + ([] : List SessionId).count id = _
      rw [List.countP_append, countP_drains, List.count_nil, Nat.add_zero]
      rfl
    rw [hsame]
    exact h.holders id
  waiting := h.waiting
  fits u hu := by
    rcases List.mem_append.mp hu with hu | hu
    · exact h.fits u hu
    · obtain ⟨id, -, rfl⟩ := List.mem_map.mp hu
      exact .opening id

theorem OrderlyBut.busy_of_mem {f : Floor} (h : f.OrderlyBut left) {u : Underway}
    (hu : u ∈ f.underway) : f.desk.queue.isBusy u.activity.session = true := by
  -- `u` is counted among the holders, of which an idle session has none
  have hpos : 0 < f.underway.countP fun v => v.activity.session = u.activity.session :=
    List.countP_pos_iff.mpr ⟨u, hu, decide_eq_true rfl⟩
  have hone := h.holders u.activity.session
  cases hbusy : f.desk.queue.isBusy u.activity.session with
  | true => rfl
  | false =>
      rw [hbusy, if_neg Bool.false_ne_true, Floor.holders] at hone
      omega

/-- An activity under way is for a session that is busy. -/
theorem OrderlyBut.ne_of_idle {f : Floor} (h : f.OrderlyBut left) {id : SessionId}
    (hidle : f.desk.queue.isBusy id = false) {u : Underway} (hu : u ∈ f.underway) :
    id ≠ u.activity.session := by
  intro heq
  rw [heq, h.busy_of_mem hu] at hidle
  cases hidle

theorem mem_of_split {f : Floor} {u : Underway} {before after : List Underway}
    (hu : f.underway = before ++ u :: after) : u ∈ f.underway := by
  simp [hu]

theorem alone {f : Floor} {u : Underway} (h : f.underway = [u]) :
    f.underway = [] ++ u :: [] :=
  h

/-- The part of `holders` that a piece of work under way stands for. -/
theorem holders_split {f : Floor} {u : Underway} {before after : List Underway}
    (hu : f.underway = before ++ u :: after) (id : SessionId) :
    f.holders id = (before ++ after).countP (fun v => v.activity.session = id)
      + (if u.activity.session = id then 1 else 0) + f.desk.drains.count id := by
  rw [Floor.holders, hu, List.countP_append, List.countP_append, List.countP_cons]
  simp only [decide_eq_true_eq]
  omega

/-- A piece of work is the only one for its session. -/
theorem OrderlyBut.others {f : Floor} (h : f.OrderlyBut left) {u : Underway}
    {before after : List Underway} (hu : f.underway = before ++ u :: after) :
    ∀ v ∈ before ++ after, v.activity.session ≠ u.activity.session := by
  have hone := h.holders u.activity.session
  rw [holders_split hu, if_pos rfl, h.busy_of_mem (mem_of_split hu), if_pos rfl] at hone
  -- `u` is the one holder of the lease, so the others are for other sessions
  have hnone : (before ++ after).countP
      (fun w => w.activity.session = u.activity.session) = 0 := by
    omega
  intro v hv hsession
  exact List.countP_eq_zero.mp hnone v hv (decide_eq_true hsession)

/-- Two pieces of work for one session are the same one. -/
theorem OrderlyBut.unique {f : Floor} (h : f.OrderlyBut left) {u v : Underway}
    (hu : u ∈ f.underway) (hv : v ∈ f.underway)
    (hsession : v.activity.session = u.activity.session) : v = u := by
  obtain ⟨before, after, hsplit⟩ := List.append_of_mem hu
  have hothers : v ∉ before ++ after := fun hmem => h.others hsplit v hmem hsession
  rw [hsplit] at hv
  simp only [List.mem_append, List.mem_cons] at hv hothers
  rcases hv with hv | hv | hv
  · exact absurd (.inl hv) hothers
  · exact hv
  · exact absurd (.inr hv) hothers

/-! ## What keeps the leases in order -/

/-- A piece of work that goes on with the lease it has. -/
theorem OrderlyBut.goOn {f g : Floor} (h : f.OrderlyBut left) {u v : Underway}
    {before after : List Underway} (hu : f.underway = before ++ u :: after)
    (hg : g.underway = before ++ v :: after) (hfits : v.Fits)
    (hsession : v.activity.session = u.activity.session)
    (hbusy : ∀ id, g.desk.queue.isBusy id = f.desk.queue.isBusy id)
    (hdrains : g.desk.drains = f.desk.drains)
    (hwaiting : ∀ id, id ≠ u.activity.session →
      g.desk.queue.waiting id = f.desk.queue.waiting id) : g.OrderlyBut left where
  holders id := by
    rw [holders_split hg, hsession, hdrains, hbusy, ← holders_split hu]
    exact h.holders id
  waiting id hleft hidle := by
    rw [hbusy] at hidle
    -- the session of `u` is busy, so it is another one that is idle
    rw [hwaiting id (h.ne_of_idle hidle (mem_of_split hu))]
    exact h.waiting id hleft hidle
  fits w hw := by
    rw [hg] at hw
    rcases List.mem_append.mp hw with hw | hw
    · exact h.fits w (by simp [hu, hw])
    · rcases List.mem_cons.mp hw with hw | hw
      · exact hw ▸ hfits
      · exact h.fits w (by simp [hu, hw])

/-- What is left fits when a piece of work ends. -/
theorem OrderlyBut.fits_left {f g : Floor} (h : f.OrderlyBut left) {u : Underway}
    {before after : List Underway} (hu : f.underway = before ++ u :: after)
    (hg : g.underway = before ++ after) : ∀ w ∈ g.underway, w.Fits := by
  intro w hw
  rw [hg] at hw
  rcases List.mem_append.mp hw with hw | hw
  · exact h.fits w (by simp [hu, hw])
  · exact h.fits w (by simp [hu, hw])

/-- A piece of work that ends with its lease given up. -/
theorem OrderlyBut.release {f g : Floor} (h : f.OrderlyBut left) {u : Underway}
    {before after : List Underway} (hu : f.underway = before ++ u :: after)
    (hg : g.underway = before ++ after)
    (hnil : ¬left u.activity.session → f.desk.queue.waiting u.activity.session = [])
    (hbusy : ∀ id, g.desk.queue.isBusy id =
      if id = u.activity.session then false else f.desk.queue.isBusy id)
    (hdrains : g.desk.drains = f.desk.drains)
    (hwaiting : ∀ id, g.desk.queue.waiting id = f.desk.queue.waiting id) : g.OrderlyBut left where
  holders id := by
    have hbefore := h.holders id
    rw [holders_split hu] at hbefore
    rw [Floor.holders, hg, hdrains, hbusy]
    by_cases heq : id = u.activity.session
    · -- the one holder of this lease is gone
      rw [if_pos heq.symm, heq, h.busy_of_mem (mem_of_split hu), if_pos rfl] at hbefore
      rw [if_pos heq, if_neg Bool.false_ne_true, heq]
      omega
    · rw [if_neg (Ne.symm heq)] at hbefore
      rw [if_neg heq, ← hbefore]
      omega
  waiting id hleft hidle := by
    rw [hwaiting]
    by_cases heq : id = u.activity.session
    · rw [heq] at hleft ⊢
      exact hnil hleft
    · rw [hbusy, if_neg heq] at hidle
      exact h.waiting id hleft hidle
  fits := h.fits_left hu hg

/-- A piece of work that ends with its lease handed to a drain. -/
theorem OrderlyBut.handOver {f g : Floor} (h : f.OrderlyBut left) {u : Underway}
    {before after : List Underway} (hu : f.underway = before ++ u :: after)
    (hg : g.underway = before ++ after)
    (hbusy : ∀ id, g.desk.queue.isBusy id = f.desk.queue.isBusy id)
    (hdrains : g.desk.drains = f.desk.drains ++ [u.activity.session])
    (hwaiting : ∀ id, g.desk.queue.waiting id = f.desk.queue.waiting id) : g.OrderlyBut left where
  holders id := by
    -- the drain counts where `u` did
    rw [hbusy, ← h.holders id, holders_split hu, Floor.holders, hg, hdrains, List.count_append,
      List.count_singleton]
    simp only [beq_iff_eq]
    omega
  waiting id hleft hidle := by
    rw [hbusy] at hidle
    rw [hwaiting]
    exact h.waiting id hleft hidle
  fits := h.fits_left hu hg

/-- A piece of work that ends with its lease given up or handed to a drain. -/
theorem OrderlyBut.leave {f g : Floor} (h : f.OrderlyBut left) {u : Underway}
    {before after : List Underway} (hu : f.underway = before ++ u :: after)
    (hg : g.underway = before ++ after)
    (hleaves : u.activity.Leaves f.desk g.desk) : g.OrderlyBut left := by
  obtain ⟨desk, store, nextToken, tripped, underway⟩ := g
  dsimp only at hleaves
  have hwaiting := hleaves.waiting
  cases hleaves with
  | releases hnil =>
      refine h.release hu hg (fun _ => hnil) (fun id => ?_) (Activity.dropEngine_drains _ _)
        hwaiting
      show ((u.activity.dropEngine f.desk).queue.release _).isBusy id = _
      rw [Activity.dropEngine_queue, QueueManager.isBusy_release]
  | handsOver hcons =>
      refine h.handOver hu hg (fun id => ?_) ?_ hwaiting
      · show (u.activity.dropEngine f.desk).queue.isBusy id = _
        rw [Activity.dropEngine_queue]
      · show (u.activity.dropEngine f.desk).drains ++ _ = _
        rw [Activity.dropEngine_drains]

/-- Work that begins with the lease of an idle session. -/
theorem OrderlyBut.begin {f g : Floor} (h : f.OrderlyBut left) {u : Underway}
    (hg : g.underway = f.underway ++ [u]) (hfits : u.Fits)
    (hidle : f.desk.queue.isBusy u.activity.session = false)
    (hdesk : g.desk = f.desk.leased u.activity.session) : g.OrderlyBut left where
  holders id := by
    have hid := h.holders id
    rw [Floor.holders] at hid
    rw [Floor.holders, hg, hdesk, List.countP_append, List.countP_singleton,
      Desk.isBusy_leased]
    simp only [decide_eq_true_eq]
    show _ + f.desk.drains.count id = _
    -- the session was idle, so the new work is all that holds its lease
    by_cases heq : id = u.activity.session
    · rw [if_pos heq.symm, if_pos heq, if_pos rfl]
      rw [heq, hidle, if_neg Bool.false_ne_true] at hid
      rw [heq]
      omega
    · rw [if_neg (Ne.symm heq), if_neg heq, ← hid]
      omega
  waiting id hleft hbusy := by
    rw [hdesk, Desk.isBusy_leased] at hbusy
    rw [hdesk, Desk.waiting_leased]
    by_cases heq : id = u.activity.session
    · rw [if_pos heq] at hbusy
      cases hbusy
    · rw [if_neg heq] at hbusy
      exact h.waiting id hleft hbusy
  fits w hw := by
    rw [hg] at hw
    rcases List.mem_append.mp hw with hw | hw
    · exact h.fits w hw
    · rw [List.mem_singleton.mp hw]
      exact hfits

/-- A change of the backlog of a busy session, or of one to nothing. -/
theorem OrderlyBut.backlog {f g : Floor} (h : f.OrderlyBut left) (id : SessionId)
    (hunderway : g.underway = f.underway) (hdrains : g.desk.drains = f.desk.drains)
    (hbusy : ∀ id', g.desk.queue.isBusy id' = f.desk.queue.isBusy id')
    (hwaiting : ∀ id', id' ≠ id → g.desk.queue.waiting id' = f.desk.queue.waiting id')
    (hid : f.desk.queue.isBusy id = true ∨ g.desk.queue.waiting id = []) : g.OrderlyBut left where
  holders id' := by
    rw [Floor.holders, hunderway, hdrains, hbusy]
    exact h.holders id'
  waiting id' hleft hidle := by
    rw [hbusy] at hidle
    by_cases heq : id' = id
    · rcases hid with hid | hid
      · rw [heq, hid] at hidle
        cases hidle
      · rw [heq]
        exact hid
    · rw [hwaiting id' heq]
      exact h.waiting id' hleft hidle
  fits := by
    rw [hunderway]
    exact h.fits

/-- A floor on which the desk and what is under way are as on an orderly one. -/
theorem OrderlyBut.same {f g : Floor} (h : f.OrderlyBut left) (hdesk : g.desk = f.desk)
    (hunderway : g.underway = f.underway) : g.OrderlyBut left where
  holders id := by
    rw [Floor.holders, hdesk, hunderway]
    exact h.holders id
  waiting id := by
    rw [hdesk]
    exact h.waiting id
  fits := by
    rw [hunderway]
    exact h.fits

/-! ## Steps -/

theorem OrderlyBut.receive {f : Floor} (h : f.OrderlyBut left) (m : QueuedMessage)
    (queueIfBusy : Bool) : (f.receive m queueIfBusy).2.OrderlyBut left := by
  rw [Floor.receive]
  have hreceives := f.desk.receives m queueIfBusy
  generalize f.desk.receive m queueIfBusy = result at hreceives
  cases hreceives with
  | granted hidle =>
      exact (h.begin (u := ⟨.direct m.sessionId m.prompt, .load⟩) rfl
        (.loading m.prompt Worker.noConfusion) hidle rfl).settle
  | busy hbusy =>
      refine OrderlyBut.settle ?_
      exact h.same rfl (List.append_nil _)
  | full e hbusy =>
      refine OrderlyBut.settle ?_
      exact h.same rfl (List.append_nil _)
  | queued count hbusy =>
      refine OrderlyBut.settle ?_
      refine h.backlog m.sessionId (List.append_nil _) rfl (f.desk.isBusy_queueing m)
        (fun id hne => ?_) (.inl hbusy)
      rw [Desk.waiting_queueing, if_neg hne]

theorem OrderlyBut.wipe {f : Floor} (h : f.OrderlyBut left) (id : SessionId) :
    (f.wipe id).OrderlyBut left := by
  rw [Floor.wipe, Desk.lease?_eq]
  by_cases hbusy : f.desk.queue.isBusy id = true
  · rw [if_pos hbusy]
    exact h
  · rw [if_neg hbusy]
    exact h.begin (u := ⟨.wiper id, .load⟩) rfl (.loadingToWipe id)
      (Bool.eq_false_iff.mpr hbusy) rfl

theorem OrderlyBut.clearBacklog {f : Floor} (h : f.OrderlyBut left) (id : SessionId) :
    (f.clearBacklog id).2.OrderlyBut left := by
  refine h.backlog id rfl rfl (f.desk.queue.isBusy_clear id) (fun id' hne => ?_) (.inr ?_)
  · show (f.desk.queue.clear id).waiting id' = _
    rw [QueueManager.waiting_clear, if_neg hne]
  · show (f.desk.queue.clear id).waiting id = []
    rw [QueueManager.waiting_clear, if_pos rfl]

theorem OrderlyBut.advance {f : Floor} (h : f.OrderlyBut left) (setup : Engine.Setup) {u : Underway}
    {before after : List Underway} {answer : Answer} (hu : f.underway = before ++ u :: after)
    (hanswer : u.pending.answer? = some answer) :
    (f.advance setup u.activity answer (before, after)).2.OrderlyBut left := by
  have hfits := h.fits u (mem_of_split hu)
  have hmoves := hfits.moves hanswer ⟨f.nextToken⟩ f.desk
  rw [Floor.advance]
  generalize u.activity.advance ⟨f.nextToken⟩ answer f.desk = result at hmoves
  obtain ⟨course, desk⟩ := result
  have hnext := hfits.underway setup hmoves
  refine OrderlyBut.settle ?_
  cases hmoves with
  | runs hstage hans =>
      obtain ⟨hv, hs⟩ := hnext _ (List.mem_singleton.mpr rfl)
      exact h.goOn hu (by simp [Course.underway]) hv hs (fun _ => rfl) rfl fun _ _ => rfl
  | wipes hstage hans =>
      obtain ⟨hv, hs⟩ := hnext _ (List.mem_singleton.mpr rfl)
      exact h.goOn hu (by simp [Course.underway]) hv hs (fun _ => rfl) rfl fun _ _ => rfl
  | takes hdrain hw =>
      obtain ⟨hv, hs⟩ := hnext _ (List.mem_singleton.mpr rfl)
      refine h.goOn hu (by simp [Course.underway, Activity.load]) hv hs (fun id => ?_) ?_
        fun id hne => ?_
      · rw [Desk.isBusy_afterTaking, Activity.dropEngine_queue]
      · exact Activity.dropEngine_drains _ _
      · rw [Desk.waiting_afterTaking, if_neg hne, Activity.dropEngine_queue]
  | ends report hleaves => exact h.leave hu (by simp [Course.underway]) hleaves

theorem OrderlyBut.step {setup : Engine.Setup} {isChild : SessionId → Prop} {f f' : Floor}
    {entries : List Entry} (h : f.OrderlyBut left) (hstep : Step setup isChild f entries f') :
    f'.OrderlyBut left := by
  cases hstep with
  | receives m queueIfBusy => exact h.receive m queueIfBusy
  | wipes id => exact h.wipe id
  | clears id => exact h.clearBacklog id
  | cancels id => exact h.same rfl rfl
  -- an activity that hears something keeps its lease and touches no backlog
  | looksUp result hu hresult =>
      have hfits := h.fits _ (mem_of_split hu)
      exact h.goOn hu rfl (hfits.found result) rfl (fun _ => rfl) rfl fun _ _ => rfl
  | answers answer hu =>
      have hfits := h.fits _ (mem_of_split hu)
      refine h.goOn hu rfl (hfits.answered answer) rfl ?_ ?_ ?_
      all_goals
        unfold Floor.answered
        split
      all_goals intros
      all_goals rfl
  | advances hu hanswer => exact h.advance setup hu hanswer
  | abandons hu hworker =>
      exact (h.leave hu rfl (Activity.leaves_abandon hworker f.desk)).settle
  | childSaves snapshot hchild => exact h.same rfl rfl

end

/-! ## Every floor that is reached -/

theorem Orderly.busy_of_mem {f : Floor} (h : f.Orderly) {u : Underway} (hu : u ∈ f.underway) :
    f.desk.queue.isBusy u.activity.session = true :=
  (h.but fun _ => False).busy_of_mem hu

/-- Two pieces of work for one session are the same one. -/
theorem Orderly.unique {f : Floor} (h : f.Orderly) {u v : Underway} (hu : u ∈ f.underway)
    (hv : v ∈ f.underway) (hsession : v.activity.session = u.activity.session) : v = u :=
  (h.but fun _ => False).unique hu hv hsession

theorem Orderly.step {setup : Engine.Setup} {isChild : SessionId → Prop} {f f' : Floor}
    {entries : List Entry} (h : f.Orderly) (hstep : Step setup isChild f entries f') :
    f'.Orderly :=
  ((h.but fun _ => False).step hstep).orderly

theorem orderly_opening (maxBacklog : Option Nat) (store : SessionId → Option Snapshot) :
    (opening maxBacklog store).Orderly :=
  ⟨fun _ => rfl, fun _ _ => rfl, fun _ hu => absurd hu List.not_mem_nil⟩

variable {setup : Engine.Setup} {isChild : SessionId → Prop} {maxBacklog : Option Nat}
  {store : SessionId → Option Snapshot} {log : List Entry} {f : Floor}

theorem Runs.orderly (h : Runs setup isChild (opening maxBacklog store) log f) : f.Orderly := by
  induction h with
  | start => exact orderly_opening maxBacklog store
  | step _ hstep ih => exact ih.step hstep

/-- A drain is started in the step in which a lease is handed to it. -/
theorem Step.drains_nil {f' : Floor} {entries : List Entry}
    (hstep : Step setup isChild f entries f') (h : f.desk.drains = []) : f'.desk.drains = [] := by
  cases hstep with
  | receives | advances | abandons => rfl
  | clears | cancels | looksUp | childSaves => exact h
  | wipes id =>
      rw [Floor.wipe, Desk.lease?_eq]
      split
      · exact h
      · rename_i hlease
        split at hlease
        · cases hlease
        · cases hlease
          exact h
  | answers answer hu =>
      unfold Floor.answered
      split
      all_goals exact h

theorem Runs.drains_nil (h : Runs setup isChild (opening maxBacklog store) log f) :
    f.desk.drains = [] := by
  induction h with
  | start => rfl
  | step _ hstep ih => exact hstep.drains_nil ih

theorem OrderlyBut.countP_underway {left : SessionId → Prop} (h : f.OrderlyBut left)
    (hdrains : f.desk.drains = []) (id : SessionId) :
    f.underway.countP (fun u => u.activity.session = id)
      = if f.desk.queue.isBusy id then 1 else 0 := by
  have hcount := h.holders id
  rwa [Floor.holders, hdrains, List.count_nil, Nat.add_zero] at hcount

theorem Runs.countP_underway (h : Runs setup isChild (opening maxBacklog store) log f)
    (id : SessionId) :
    f.underway.countP (fun u => u.activity.session = id)
      = if f.desk.queue.isBusy id then 1 else 0 :=
  (h.orderly.but fun _ => False).countP_underway h.drains_nil id

/-- **No prompt is stranded and none is overtaken.** At every moment between two steps a session on
which nobody is at work has an empty backlog. So where a prompt waits, exactly one activity is under
way for its session, which holds the lease and will hand it on; and a prompt that comes in runs at
once only when nothing waits before it. -/
theorem no_prompt_stranded (h : Runs setup isChild (opening maxBacklog store) log f) :
    (∀ id, f.desk.queue.isBusy id = false → f.desk.queue.waiting id = []) ∧
      (∀ id, f.desk.queue.waiting id ≠ [] →
        f.underway.countP (fun u => u.activity.session = id) = 1) ∧
      ∀ m queueIfBusy, (f.desk.receive m queueIfBusy).1 = .granted →
        f.desk.queue.waiting m.sessionId = [] := by
  refine ⟨h.orderly.waiting, fun id hwaiting => ?_, fun m queueIfBusy hgranted => ?_⟩
  · rw [h.countP_underway]
    cases hbusy : f.desk.queue.isBusy id with
    | true => rfl
    | false => exact absurd (h.orderly.waiting id hbusy) hwaiting
  · have hreceives := f.desk.receives m queueIfBusy
    generalize f.desk.receive m queueIfBusy = result at hreceives hgranted
    cases hreceives with
    | granted hidle => exact h.orderly.waiting m.sessionId hidle
    | busy | full | queued => cases hgranted

/-- A prompt for the session `s`. -/
def promptFor (text : String) : QueuedMessage :=
  ⟨⟨"msg_" ++ text⟩, ⟨"s"⟩, text, .normal, .empty, default⟩

/-- The run of a prompt is abandoned before its session was loaded, while another prompt waits. -/
def afterAbandonedRun : Floor :=
  ((((opening (some 1) fun _ => none).receive (promptFor "first") true).2.receive
    (promptFor "second") true).2).abandon (.direct ⟨"s"⟩ "first") ([], [])

theorem no_prompt_stranded_after_abandoned_run :
    Runs .plain (fun _ => False) (opening (some 1) fun _ => none)
        [.came (promptFor "first") .granted, .handed (promptFor "first") .direct,
          .came (promptFor "second") (.queued (promptFor "second") 1)] afterAbandonedRun ∧
      afterAbandonedRun.desk.queue.waiting ⟨"s"⟩ = [promptFor "second"] ∧
      afterAbandonedRun.underway.countP (fun u => u.activity.session = ⟨"s"⟩) = 1 := by
  have hruns : Runs .plain (fun _ => False) (opening (some 1) fun _ => none)
      _ afterAbandonedRun :=
    .step (.step (.step .start (.receives _ (promptFor "first") true))
      (.receives _ (promptFor "second") true))
      (.abandons (alone (u := ⟨.direct ⟨"s"⟩ "first", .load⟩) rfl) Worker.noConfusion)
  have hwaiting : afterAbandonedRun.desk.queue.waiting ⟨"s"⟩ = [promptFor "second"] := rfl
  refine ⟨hruns, hwaiting, (no_prompt_stranded hruns).2.1 ⟨"s"⟩ ?_⟩
  rw [hwaiting]
  exact List.cons_ne_nil _ _

end Floor

end AgentSessions
