import AgentSessions.Proofs.Orchestration.Changes
import AgentSessions.Proofs.Orchestration.Panics

/-!
# Which engines run

The desk keeps the token of the engine that runs for a session. The token is entered when the engine
is made and taken out when the work that made it goes on or ends, however that comes: the run
returns, it is abandoned, or something panics under it. Only one piece of work is under way for a
session, so no other engine can come in between, and what is entered for a session is the token of
its engine (`Floor.Registered`).

Tokens are minted with rising numbers, here and for tasks, and only tokens that exist are tripped,
by whoever holds them. So an engine begins with a token that was never tripped.
-/

set_option autoImplicit false

namespace AgentSessions

/-! ## The tokens at the desk -/

namespace Desk

theorem running?_register (d : Desk) (id id' : SessionId) (token : Token) :
    (d.register id token).running? id' = if id' = id then some token else d.running? id' := by
  show (d.active.insert id.text token).get? id'.text = _
  rw [Dict.get?_insert]
  by_cases h : id' = id
  · rw [if_pos h, if_pos (congrArg SessionId.text h)]
  · rw [if_neg h, if_neg fun htext => h (SessionId.text_inj.mp htext)]
    rfl

theorem running?_unregister (d : Desk) (id id' : SessionId) :
    (d.unregister id).running? id' = if id' = id then none else d.running? id' := by
  show (d.active.erase id.text).get? id'.text = _
  rw [Dict.get?_erase]
  by_cases h : id' = id
  · rw [if_pos h, if_pos (congrArg SessionId.text h)]
  · rw [if_neg h, if_neg fun htext => h (SessionId.text_inj.mp htext)]
    rfl

end Desk

namespace Activity

/-- The engine of an activity that is cut short or goes on is the only one that is taken out. -/
theorem running?_dropEngine_ne (a : Activity) (d : Desk) {id : SessionId} (hne : id ≠ a.session) :
    (a.dropEngine d).running? id = d.running? id := by
  unfold dropEngine
  split
  · rw [Desk.running?_unregister, if_neg hne]
  · rfl

theorem running?_dropEngine_of_running {a : Activity} {token : Token}
    (h : a.stage = .running token) (d : Desk) : (a.dropEngine d).running? a.session = none := by
  unfold dropEngine
  rw [h]
  show (d.unregister a.session).running? a.session = none
  rw [Desk.running?_unregister, if_pos rfl]

theorem dropEngine_of_not_running {a : Activity} (h : ∀ token, a.stage ≠ .running token)
    (d : Desk) : a.dropEngine d = d := by
  unfold dropEngine
  cases hstage : a.stage with
  | running token => exact absurd hstage (h token)
  | opening | loading | loadingToWipe | wiping => rfl

/-- Whoever leaves takes its engine out, and nothing else happens to the tokens. -/
theorem Leaves.running? {a : Activity} {d d' : Desk} (h : a.Leaves d d') (id : SessionId) :
    d'.running? id = (a.dropEngine d).running? id := by
  cases h with
  | releases => rfl
  | handsOver => rfl

theorem running?_abandon (a : Activity) (d : Desk) (id : SessionId) :
    (a.abandon d).running? id = (a.dropEngine d).running? id := by
  by_cases hdrain : a.worker = .drain
  · rw [abandon_drain hdrain]
    rfl
  · exact (leaves_abandon hdrain d).running? id

end Activity

/-! ## Runs under way -/

/-- The work runs a prompt, and its engine has this token. -/
def Underway.RunsWith (u : Underway) (token : Token) : Prop :=
  u.activity.stage = .running token ∧ ∃ rest, u.pending = .engine token rest

/-- Work without an engine. -/
structure Underway.Unmanned (u : Underway) : Prop where
  stage : ∀ token, u.activity.stage ≠ .running token
  pending : u.pending.engine? = none

theorem Underway.unmanned_drain (id : SessionId) : Underway.Unmanned ⟨.drain id, .turn⟩ :=
  ⟨fun _ => Stage.noConfusion, rfl⟩

namespace Floor

/-- What is entered at the desk are the engines that run prompts; all engines have tokens of their
own, and no token is tripped that was not minted. -/
structure Registered (f : Floor) : Prop where
  running : ∀ id token, f.desk.running? id = some token ↔
    ∃ u ∈ f.underway, u.activity.session = id ∧ u.activity.stage = .running token
  engine : ∀ u ∈ f.underway, ∀ token, u.activity.stage = .running token →
    u.pending.engine? = some token
  minted : ∀ u ∈ f.underway, ∀ token, u.pending.engine? = some token → token.number < f.nextToken
  apart : ∀ u ∈ f.underway, ∀ v ∈ f.underway, ∀ token, u.pending.engine? = some token →
    v.pending.engine? = some token → u.activity.session = v.activity.session
  tripped : ∀ token ∈ f.tripped, token.number < f.nextToken

theorem registered_opening (maxBacklog : Option Nat) (store : SessionId → Option Snapshot) :
    (opening maxBacklog store).Registered where
  running id token := by
    constructor
    · intro h
      cases h
    · rintro ⟨u, hu, -⟩
      cases hu
  engine u hu := by cases hu
  minted u hu := by cases hu
  apart u hu := by cases hu
  tripped token h := by cases h

/-! ## What keeps the tokens in order -/

/-- Tokens are minted and tripped, and work comes in that has no engine. -/
theorem Registered.more {f g : Floor} (h : f.Registered) {new : List Underway}
    (hunderway : g.underway = f.underway ++ new) (hnew : ∀ u ∈ new, u.Unmanned)
    (hrunning : ∀ id, g.desk.running? id = f.desk.running? id) (hnext : f.nextToken ≤ g.nextToken)
    (htripped : ∀ token ∈ g.tripped, token.number < g.nextToken) : g.Registered := by
  have hmem : ∀ u ∈ g.underway, u ∈ f.underway ∨ u.Unmanned := by
    intro u hu
    rw [hunderway] at hu
    rcases List.mem_append.mp hu with hu | hu
    · exact .inl hu
    · exact .inr (hnew u hu)
  -- an engine is one that was there before, since new work has none
  have hengine : ∀ u ∈ g.underway, ∀ token, u.pending.engine? = some token → u ∈ f.underway := by
    intro u hu token htoken
    rcases hmem u hu with hu | hu
    · exact hu
    · rw [hu.pending] at htoken
      cases htoken
  refine ⟨fun id token => ?_, fun u hu token hstage => ?_, fun u hu token htoken => ?_,
    fun u hu v hv token htoken htoken' => ?_, htripped⟩
  · rw [hrunning, h.running]
    constructor
    · rintro ⟨u, hu, hstage⟩
      exact ⟨u, by rw [hunderway]; exact List.mem_append_left _ hu, hstage⟩
    · rintro ⟨u, hu, hsession, hstage⟩
      rcases hmem u hu with hu | hu
      · exact ⟨u, hu, hsession, hstage⟩
      · exact absurd hstage (hu.stage token)
  · rcases hmem u hu with hu | hu
    · exact h.engine u hu token hstage
    · exact absurd hstage (hu.stage token)
  · exact Nat.lt_of_lt_of_le (h.minted u (hengine u hu token htoken) token htoken) hnext
  · exact h.apart u (hengine u hu token htoken) v (hengine v hv token htoken') token htoken htoken'

theorem Registered.settle {f : Floor} (h : f.Registered) : f.settle.Registered := by
  refine h.more rfl ?_ (fun _ => rfl) (Nat.le_refl _) h.tripped
  intro u hu
  obtain ⟨id, -, rfl⟩ := List.mem_map.mp hu
  exact Underway.unmanned_drain id

section

variable {left : SessionId → Prop} {f g : Floor} {u : Underway} {before new after : List Underway}

theorem mem_split_iff (hu : f.underway = before ++ u :: after) (v : Underway) :
    v ∈ f.underway ↔ v ∈ before ++ after ∨ v = u := by
  rw [hu]
  simp only [List.mem_append, List.mem_cons]
  grind

theorem mem_replaced_iff (hg : g.underway = before ++ new ++ after) (v : Underway) :
    v ∈ g.underway ↔ v ∈ before ++ after ∨ v ∈ new := by
  rw [hg]
  simp only [List.mem_append]
  grind

/-- What is entered stays right where one piece of work goes on as `new`, or ends. -/
theorem Registered.running_replace (h : f.Registered) (horderly : f.OrderlyBut left)
    (hu : f.underway = before ++ u :: after) (hg : g.underway = before ++ new ++ after)
    (hsession : ∀ v ∈ new, v.activity.session = u.activity.session)
    (hhere : ∀ token, g.desk.running? u.activity.session = some token ↔
      ∃ v ∈ new, v.activity.stage = .running token)
    (helse : ∀ id, id ≠ u.activity.session → g.desk.running? id = f.desk.running? id)
    (id : SessionId) (token : Token) :
    g.desk.running? id = some token ↔
      ∃ v ∈ g.underway, v.activity.session = id ∧ v.activity.stage = .running token := by
  have hothers := horderly.others hu
  -- the work on the session is `new` now; on other sessions it is what it was
  by_cases hid : id = u.activity.session
  · subst hid
    rw [hhere]
    constructor
    · rintro ⟨v, hv, hrunning⟩
      exact ⟨v, (mem_replaced_iff hg v).mpr (.inr hv), hsession v hv, hrunning⟩
    · rintro ⟨v, hv, hsame, hrunning⟩
      rcases (mem_replaced_iff hg v).mp hv with hv | hv
      · exact absurd hsame (hothers v hv)
      · exact ⟨v, hv, hrunning⟩
  · rw [helse id hid, h.running]
    constructor
    · rintro ⟨v, hv, hsame, hrunning⟩
      rcases (mem_split_iff hu v).mp hv with hv | rfl
      · exact ⟨v, (mem_replaced_iff hg v).mpr (.inl hv), hsame, hrunning⟩
      · exact absurd hsame.symm hid
    · rintro ⟨v, hv, hsame, hrunning⟩
      rcases (mem_replaced_iff hg v).mp hv with hv | hv
      · exact ⟨v, (mem_split_iff hu v).mpr (.inl hv), hsame, hrunning⟩
      · exact absurd (hsame.symm.trans (hsession v hv)) hid

/-- One piece of work goes on as `new`, or ends: with the engine that it has, with one whose token
was just minted, or with none. -/
theorem Registered.replace (h : f.Registered) (horderly : f.OrderlyBut left)
    (hu : f.underway = before ++ u :: after) (hg : g.underway = before ++ new ++ after)
    (hsession : ∀ v ∈ new, v.activity.session = u.activity.session)
    (hstage : ∀ v ∈ new, ∀ token, v.activity.stage = .running token →
      v.pending.engine? = some token)
    (hengine : ∀ v ∈ new, ∀ token, v.pending.engine? = some token →
      u.pending.engine? = some token ∨
        f.nextToken ≤ token.number ∧ token.number < g.nextToken)
    (hhere : ∀ token, g.desk.running? u.activity.session = some token ↔
      ∃ v ∈ new, v.activity.stage = .running token)
    (helse : ∀ id, id ≠ u.activity.session → g.desk.running? id = f.desk.running? id)
    (hnext : f.nextToken ≤ g.nextToken) (htripped : g.tripped = f.tripped) : g.Registered := by
  have hold : ∀ v ∈ before ++ after, v ∈ f.underway :=
    fun v hv => (mem_split_iff hu v).mpr (.inl hv)
  -- a token of new work is that of `u`, or nobody else has it
  have hforeign : ∀ v ∈ new, ∀ w ∈ before ++ after, ∀ token, v.pending.engine? = some token →
      w.pending.engine? = some token → v.activity.session = w.activity.session := by
    intro v hv w hw token htoken htoken'
    rcases hengine v hv token htoken with hkept | hfresh
    · have hsame := h.apart u (mem_of_split hu) w (hold w hw) token hkept htoken'
      rw [hsession v hv, hsame]
    · have hminted := h.minted w (hold w hw) token htoken'
      omega
  refine ⟨h.running_replace horderly hu hg hsession hhere helse, fun v hv token hrunning => ?_,
    fun v hv token htoken => ?_, fun v hv w hw token htoken htoken' => ?_, fun token htoken => ?_⟩
  · rcases (mem_replaced_iff hg v).mp hv with hv | hv
    · exact h.engine v (hold v hv) token hrunning
    · exact hstage v hv token hrunning
  · rcases (mem_replaced_iff hg v).mp hv with hv | hv
    · exact Nat.lt_of_lt_of_le (h.minted v (hold v hv) token htoken) hnext
    · rcases hengine v hv token htoken with hkept | hfresh
      · exact Nat.lt_of_lt_of_le (h.minted u (mem_of_split hu) token hkept) hnext
      · exact hfresh.2
  · rcases (mem_replaced_iff hg v).mp hv with hv | hv
    · rcases (mem_replaced_iff hg w).mp hw with hw | hw
      · exact h.apart v (hold v hv) w (hold w hw) token htoken htoken'
      · exact (hforeign w hw v hv token htoken' htoken).symm
    · rcases (mem_replaced_iff hg w).mp hw with hw | hw
      · exact hforeign v hv w hw token htoken htoken'
      · rw [hsession v hv, hsession w hw]
  · rw [htripped] at htoken
    exact Nat.lt_of_lt_of_le (h.tripped token htoken) hnext

end

/-- No engine of a session is entered once the one that its work had is taken out. -/
theorem Registered.running?_dropEngine {left : SessionId → Prop} {f : Floor} (h : f.Registered)
    (horderly : f.OrderlyBut left) {u : Underway} (hu : u ∈ f.underway) :
    (u.activity.dropEngine f.desk).running? u.activity.session = none := by
  by_cases hstage : ∃ token, u.activity.stage = .running token
  · obtain ⟨token, hstage⟩ := hstage
    exact Activity.running?_dropEngine_of_running hstage f.desk
  · have hnot : ∀ token, u.activity.stage ≠ .running token :=
      fun token hrunning => hstage ⟨token, hrunning⟩
    rw [Activity.dropEngine_of_not_running hnot]
    cases hrunning : f.desk.running? u.activity.session with
    | none => rfl
    | some token =>
        obtain ⟨v, hv, hsession, hv'⟩ := (h.running _ _).mp hrunning
        rw [horderly.unique hu hv hsession] at hv'
        exact absurd hv' (hnot token)

/-- Work that ends, or goes on without an engine. -/
theorem Registered.drop {left : SessionId → Prop} {f g : Floor} (h : f.Registered)
    (horderly : f.OrderlyBut left) {u : Underway} {before new after : List Underway}
    (hu : f.underway = before ++ u :: after) (hg : g.underway = before ++ new ++ after)
    (hsession : ∀ v ∈ new, v.activity.session = u.activity.session)
    (hnew : ∀ v ∈ new, v.Unmanned)
    (hdesk : ∀ id, g.desk.running? id = (u.activity.dropEngine f.desk).running? id)
    (hnext : f.nextToken ≤ g.nextToken) (htripped : g.tripped = f.tripped) : g.Registered := by
  refine h.replace horderly hu hg hsession ?_ ?_ ?_ ?_ hnext htripped
  · intro v hv token hrunning
    exact absurd hrunning ((hnew v hv).stage token)
  · intro v hv token htoken
    rw [(hnew v hv).pending] at htoken
    cases htoken
  · intro token
    rw [hdesk, h.running?_dropEngine horderly (mem_of_split hu)]
    constructor
    · intro hnone
      cases hnone
    · rintro ⟨v, hv, hrunning⟩
      exact absurd hrunning ((hnew v hv).stage token)
  · intro id hne
    rw [hdesk, Activity.running?_dropEngine_ne _ _ hne]

/-- Work that hears something and is at the same stage with the same engine. -/
theorem Registered.hears {left : SessionId → Prop} {f g : Floor} (h : f.Registered)
    (horderly : f.OrderlyBut left) {a : Activity} {pending pending' : Pending}
    {before after : List Underway} (hu : f.underway = before ++ ⟨a, pending⟩ :: after)
    (hg : g.underway = before ++ ⟨a, pending'⟩ :: after)
    (hsame : pending'.engine? = pending.engine?) (hdesk : g.desk = f.desk)
    (hnext : g.nextToken = f.nextToken) (htripped : g.tripped = f.tripped) : g.Registered := by
  have hmem : ⟨a, pending⟩ ∈ f.underway := mem_of_split hu
  have hg' : g.underway = before ++ [⟨a, pending'⟩] ++ after := by
    rw [hg, List.append_cons]
  refine h.replace horderly hu hg' ?_ ?_ ?_ ?_ ?_ (Nat.le_of_eq hnext.symm) htripped
  · intro v hv
    rw [List.mem_singleton.mp hv]
  · intro v hv token hrunning
    rw [List.mem_singleton.mp hv] at hrunning ⊢
    exact hsame.trans (h.engine _ hmem token hrunning)
  · intro v hv token htoken
    rw [List.mem_singleton.mp hv] at htoken
    exact .inl (hsame.symm.trans htoken)
  · intro token
    rw [hdesk, h.running]
    constructor
    · rintro ⟨v, hv, hsession, hrunning⟩
      rw [horderly.unique hmem hv hsession] at hrunning
      exact ⟨_, List.mem_singleton_self _, hrunning⟩
    · rintro ⟨v, hv, hrunning⟩
      rw [List.mem_singleton.mp hv] at hrunning
      exact ⟨_, hmem, rfl, hrunning⟩
  · intro id _
    rw [hdesk]

/-! ## Steps -/

theorem Registered.receive {f : Floor} (h : f.Registered) (m : QueuedMessage)
    (queueIfBusy : Bool) : (f.receive m queueIfBusy).2.Registered := by
  rw [Floor.receive]
  have hreceives := f.desk.receives m queueIfBusy
  generalize f.desk.receive m queueIfBusy = result at hreceives
  refine Registered.settle ?_
  refine h.more rfl ?_ ?_ (Nat.le_refl _) h.tripped
  · intro u hu
    cases hreceives with
    | granted hidle =>
        rw [List.mem_singleton.mp hu]
        exact ⟨fun _ => Stage.noConfusion, rfl⟩
    | busy | full | queued => cases hu
  · intro id
    cases hreceives with
    | granted | busy | full | queued => rfl

theorem Registered.wipe {f : Floor} (h : f.Registered) (id : SessionId) :
    (f.wipe id).Registered := by
  rw [Floor.wipe, Desk.lease?_eq]
  by_cases hbusy : f.desk.queue.isBusy id = true
  · rw [if_pos hbusy]
    exact h
  · rw [if_neg hbusy]
    have hnew : ∀ u ∈ [(⟨.wiper id, .load⟩ : Underway)], u.Unmanned := by
      intro u hu
      rw [List.mem_singleton.mp hu]
      exact ⟨fun _ => Stage.noConfusion, rfl⟩
    exact h.more rfl hnew (fun _ => rfl) (Nat.le_refl _) h.tripped

theorem Registered.cancel {f : Floor} (h : f.Registered) (id : SessionId) :
    (f.cancel id).Registered := by
  refine h.more (List.append_nil _).symm (fun u hu => by cases hu) (fun _ => rfl) (Nat.le_refl _) ?_
  intro token htoken
  rcases List.mem_append.mp htoken with htoken | htoken
  · obtain ⟨u, hu, -, hstage⟩ := (h.running id token).mp (by simpa using htoken)
    exact h.minted u hu token (h.engine u hu token hstage)
  · exact h.tripped token htoken

theorem Registered.abandon {left : SessionId → Prop} {f : Floor} (h : f.Registered)
    (horderly : f.OrderlyBut left) {u : Underway} {before after : List Underway}
    (hu : f.underway = before ++ u :: after) :
    (f.abandon u.activity (before, after)).Registered := by
  refine Registered.settle ?_
  have hrest : before ++ after = before ++ [] ++ after := by
    rw [List.append_nil]
  refine h.drop horderly hu hrest ?_ ?_ (u.activity.running?_abandon f.desk) (Nat.le_refl _) rfl
  · intro v hv
    cases hv
  · intro v hv
    cases hv

theorem Registered.advance {left : SessionId → Prop} {f : Floor} (h : f.Registered)
    (horderly : f.OrderlyBut left) (setup : Engine.Setup) {u : Underway}
    {before after : List Underway} {answer : Answer} (hu : f.underway = before ++ u :: after)
    (hanswer : u.pending.answer? = some answer) :
    (f.advance setup u.activity answer (before, after)).2.Registered := by
  have hfits := horderly.fits u (mem_of_split hu)
  have hmoves := hfits.moves hanswer ⟨f.nextToken⟩ f.desk
  rw [Floor.advance]
  generalize u.activity.advance ⟨f.nextToken⟩ answer f.desk = result at hmoves
  obtain ⟨course, desk⟩ := result
  have hnext := hfits.underway setup hmoves
  refine Registered.settle ?_
  cases hmoves with
  | @runs prompt snapshot hstage _ =>
      -- the engine is made with the next token and entered under it
      refine h.replace horderly hu rfl (fun v hv => (hnext v hv).2) ?_ ?_ ?_ ?_ (Nat.le_succ _) rfl
      · intro v hv token hrunning
        obtain rfl := List.mem_singleton.mp hv
        cases hrunning
        rfl
      · intro v hv token htoken
        obtain rfl := List.mem_singleton.mp hv
        cases htoken
        exact .inr ⟨Nat.le_refl _, Nat.lt_succ_self _⟩
      · intro token
        show (f.desk.register _ _).running? _ = some token ↔ _
        rw [Desk.running?_register, if_pos rfl]
        simp [Course.underway]
      · intro id hne
        show (f.desk.register _ _).running? id = _
        rw [Desk.running?_register, if_neg hne]
  | wipes hstage _ =>
      have hnot : ∀ token, u.activity.stage ≠ .running token := by
        intro token hrunning
        cases hstage.symm.trans hrunning
      have hnone := h.running?_dropEngine horderly (mem_of_split hu)
      rw [Activity.dropEngine_of_not_running hnot] at hnone
      refine h.replace horderly hu rfl (fun v hv => (hnext v hv).2) ?_ ?_ ?_ (fun _ _ => rfl)
        (Nat.le_succ _) rfl
      · intro v hv token hrunning
        obtain rfl := List.mem_singleton.mp hv
        cases hrunning
      · intro v hv token htoken
        obtain rfl := List.mem_singleton.mp hv
        cases htoken
        exact .inr ⟨Nat.le_refl _, Nat.lt_succ_self _⟩
      · intro token
        show f.desk.running? _ = some token ↔ _
        rw [hnone]
        simp [Course.underway]
  | takes hdrain hw =>
      refine h.drop horderly hu rfl (fun v hv => (hnext v hv).2) ?_ (fun _ => rfl)
        (Nat.le_succ _) rfl
      intro v hv
      rw [List.mem_singleton.mp hv]
      exact ⟨fun _ => Stage.noConfusion, rfl⟩
  | ends report hleaves =>
      exact h.drop horderly hu rfl (fun v hv => (hnext v hv).2) (fun v hv => by cases hv)
        hleaves.running? (Nat.le_succ _) rfl

variable {setup : Engine.Setup} {isChild : SessionId → Prop}

theorem Registered.step {left : SessionId → Prop} {f f' : Floor} {entries : List Entry}
    (h : f.Registered) (horderly : f.OrderlyBut left)
    (hstep : Step setup isChild f entries f') : f'.Registered := by
  -- steps that touch neither work nor tokens keep what is registered
  have hidle : ∀ {g : Floor}, g.underway = f.underway → g.desk.active = f.desk.active →
      g.nextToken = f.nextToken → g.tripped = f.tripped → g.Registered := by
    intro g hunderway hactive hnext htripped
    refine h.more (hunderway.trans (List.append_nil _).symm) (fun u hu => by cases hu) ?_
      (Nat.le_of_eq hnext.symm) ?_
    · intro id
      show g.desk.active.get? id.text = _
      rw [hactive]
      rfl
    · rw [htripped, hnext]
      exact h.tripped
  cases hstep with
  | receives m queueIfBusy => exact h.receive m queueIfBusy
  | wipes id => exact h.wipe id
  | clears id => exact hidle rfl rfl rfl rfl
  | cancels id => exact h.cancel id
  | looksUp result hu _ => exact h.hears horderly hu rfl rfl rfl rfl rfl
  | @answers a engine question next before after answer hu =>
      have hsame : (f.answered engine a.session question answer).2.desk = f.desk ∧
          (f.answered engine a.session question answer).2.nextToken = f.nextToken ∧
          (f.answered engine a.session question answer).2.tripped = f.tripped := by
        unfold Floor.answered
        split <;> exact ⟨rfl, rfl, rfl⟩
      exact h.hears horderly hu rfl rfl hsame.1 hsame.2.1 hsame.2.2
  | advances hu hanswer => exact h.advance horderly setup hu hanswer
  | abandons hu _ => exact h.abandon horderly hu
  | childSaves snapshot _ => exact hidle rfl rfl rfl rfl

/-! ## Everything that happens -/

/-- A step on the floor; or an activity that is cut short, by a panic or because it is dropped; or
something that happens elsewhere: tokens are minted, and tokens that were minted are tripped by
those who hold them. -/
inductive StepCutOrTrip (setup : Engine.Setup) (isChild : SessionId → Prop) :
    Floor → Floor → Prop where
  | steps {f f' : Floor} {entries : List Entry} :
      Step setup isChild f entries f' → StepCutOrTrip setup isChild f f'
  | cuts {f : Floor} {u : Underway} {before after : List Underway} :
      f.underway = before ++ u :: after →
      StepCutOrTrip setup isChild f (f.abandon u.activity (before, after))
  | elsewhere (f : Floor) (minted : Nat) (tokens : List Token) :
      (∀ token ∈ tokens, token.number < f.nextToken + minted) →
      StepCutOrTrip setup isChild f
        { f with nextToken := f.nextToken + minted, tripped := tokens ++ f.tripped }

/-- Any number of steps, cuts, and tokens that are minted and tripped elsewhere. -/
inductive RunsWithCutsAndTrips (setup : Engine.Setup) (isChild : SessionId → Prop) (start : Floor) :
    Floor → Prop where
  | start : RunsWithCutsAndTrips setup isChild start start
  | step {f f' : Floor} :
      RunsWithCutsAndTrips setup isChild start f → StepCutOrTrip setup isChild f f' →
      RunsWithCutsAndTrips setup isChild start f'

theorem OrderlyBut.stepCutOrTrip {f f' : Floor} (h : f.OrderlyBut fun _ => True)
    (hnext : StepCutOrTrip setup isChild f f') : f'.OrderlyBut fun _ => True := by
  cases hnext with
  | steps hstep => exact h.step hstep
  | cuts hu => exact h.abandon hu fun _ _ => trivial
  | elsewhere minted tokens _ => exact h.same rfl rfl

theorem Registered.stepCutOrTrip {f f' : Floor} (h : f.Registered)
    (horderly : f.OrderlyBut fun _ => True) (hnext : StepCutOrTrip setup isChild f f') :
    f'.Registered := by
  cases hnext with
  | steps hstep => exact h.step horderly hstep
  | cuts hu => exact h.abandon horderly hu
  | elsewhere minted tokens htokens =>
      refine h.more (List.append_nil _).symm (fun u hu => by cases hu) (fun _ => rfl)
        (Nat.le_add_right _ _) ?_
      intro token htoken
      rcases List.mem_append.mp htoken with htoken | htoken
      · exact htokens token htoken
      · exact Nat.lt_of_lt_of_le (h.tripped token htoken) (Nat.le_add_right _ _)

theorem RunsWithCutsAndTrips.registered {maxBacklog : Option Nat}
    {store : SessionId → Option Snapshot} {f : Floor}
    (h : RunsWithCutsAndTrips setup isChild (opening maxBacklog store) f) :
    f.OrderlyBut (fun _ => True) ∧ f.Registered := by
  induction h with
  | start => exact ⟨(orderly_opening maxBacklog store).but _, registered_opening maxBacklog store⟩
  | step _ hnext ih => exact ⟨ih.1.stepCutOrTrip hnext, ih.2.stepCutOrTrip ih.1 hnext⟩

/-! ## How engines begin -/

/-- An engine that runs a prompt after a step ran before it, or it has a token that was not minted
then. -/
theorem Comes.runsWith {f : Floor} {entries : List Entry} {u : Underway} (h : Comes f entries u)
    {token : Token} (hruns : u.RunsWith token) :
    (∃ v ∈ f.underway, v.activity = u.activity ∧ v.RunsWith token) ∨
      token.number = f.nextToken := by
  obtain ⟨hstage, rest, hpending⟩ := hruns
  cases h with
  | stays hu => exact .inl ⟨u, hu, rfl, hstage, rest, hpending⟩
  | drains | wipes | begins | finds => cases hpending
  | hears answer hu =>
      cases hpending
      exact .inl ⟨_, hu, rfl, hstage, _, rfl⟩
  | opens =>
      cases hpending
      exact .inr rfl

/-- On the floor only engines that run are cancelled. -/
theorem Step.tripped {f f' : Floor} {entries : List Entry}
    (hstep : Step setup isChild f entries f') {token : Token} (h : token ∈ f'.tripped) :
    token ∈ f.tripped ∨ ∃ id, f.desk.running? id = some token := by
  cases hstep with
  | receives | clears | looksUp | advances | abandons | childSaves => exact .inl h
  | wipes id =>
      rw [Floor.wipe] at h
      split at h <;> exact .inl h
  | cancels id =>
      rcases List.mem_append.mp h with h | h
      · exact .inr ⟨id, by simpa using h⟩
      · exact .inl h
  | answers answer hu =>
      unfold Floor.answered at h
      split at h <;> exact .inl h

/-- An engine begins with a token that was never tripped. -/
theorem Registered.begins_untripped {f f' : Floor} (h : f.Registered)
    (horderly : f.OrderlyBut fun _ => True) (hnext : StepCutOrTrip setup isChild f f')
    {u : Underway} (hu : u ∈ f'.underway) {token : Token} (hruns : u.RunsWith token) :
    (∃ v ∈ f.underway, v.activity = u.activity ∧ v.RunsWith token) ∨ token ∉ f'.tripped := by
  cases hnext with
  | elsewhere minted tokens _ => exact .inl ⟨u, hu, rfl, hruns⟩
  | cuts hsplit =>
      have hcomes : Comes f [] u := comes_of_abandon hsplit u hu
      refine (hcomes.runsWith hruns).imp_right fun hnew htripped => ?_
      have hminted := h.tripped token htripped
      omega
  | steps hstep =>
      have hcomes := hstep.comes horderly.fits u hu
      refine (hcomes.runsWith hruns).imp_right fun hnew htripped => ?_
      rcases hstep.tripped htripped with hbefore | ⟨id, hrunning⟩
      · have hminted := h.tripped token hbefore
        omega
      · obtain ⟨v, hv, -, hstage⟩ := (h.running id token).mp hrunning
        have hminted := h.minted v hv token (h.engine v hv token hstage)
        omega

end Floor

/-! ## Offices -/

namespace Office

open Floor (StepCutOrTrip RunsWithCutsAndTrips)

variable {η : Type} {setup : Engine.Setup} {isChild : SessionId → Prop} {w : World η}
  {underway : List Underway} {f : Floor}

/-- An activity is cut short, whatever it waits for. -/
theorem shows_cuts {u : Underway} {before after : List Underway}
    (h : w.Shows (before ++ u :: after) f) :
    ∃ f', StepCutOrTrip setup isChild f f' ∧ (abandon u.activity w).Shows (before ++ after) f' := by
  obtain ⟨before', after', hsplit, hshows⟩ := shows_cut h
  exact ⟨_, .cuts hsplit, hshows⟩

/-- A token is minted for somebody else. -/
theorem shows_freshToken (h : w.Shows underway f) :
    ∃ f', StepCutOrTrip setup isChild f f' ∧ w.freshToken.2.Shows underway f' := by
  refine ⟨_, .elsewhere f 1 [] ?_, h.freshToken⟩
  intro token htoken
  cases htoken

/-- Somebody trips a token that was minted, say that of a task or of its own run. -/
theorem shows_trip (h : w.Shows underway f) {token : Token} (hminted : token.number < w.nextToken) :
    ∃ f', StepCutOrTrip setup isChild f f' ∧ (w.trip token).Shows underway f' := by
  refine ⟨_, .elsewhere f 0 [token] ?_, h.trip token⟩
  intro t ht
  rw [List.mem_singleton.mp ht, h.nextToken]
  exact hminted

end Office

namespace Floor

variable {setup : Engine.Setup} {isChild : SessionId → Prop}

theorem Registered.entered_iff {f : Floor} (h : f.Registered) (id : SessionId) (token : Token) :
    f.desk.running? id = some token ↔
      ∃ u ∈ f.underway, u.activity.session = id ∧ u.RunsWith token := by
  rw [h.running]
  constructor
  · rintro ⟨u, hu, hsession, hstage⟩
    have hengine := h.engine u hu token hstage
    refine ⟨u, hu, hsession, hstage, ?_⟩
    cases hpending : u.pending with
    | engine token' rest =>
        rw [hpending] at hengine
        cases hengine
        exact ⟨rest, rfl⟩
    | turn | load | found =>
        rw [hpending] at hengine
        cases hengine
  · rintro ⟨u, hu, hsession, hstage, -⟩
    exact ⟨u, hu, hsession, hstage⟩

/-- A cancellation finds the run of a session if there is one, and trips its token. -/
theorem Registered.cancels {f : Floor} (h : f.Registered) {η : Type} {w : World η}
    {underway : List Underway} (hshows : w.Shows underway f) (id : SessionId) :
    ((Office.cancel id w).1 = true ↔
      ∃ u ∈ f.underway, u.activity.session = id ∧ ∃ token, u.RunsWith token) ∧
    ∀ token, token ∈ (Office.cancel id w).2.tripped ↔
      token ∈ w.tripped ∨ ∃ u ∈ f.underway, u.activity.session = id ∧ u.RunsWith token := by
  have hdesk : w.desk.running? id = f.desk.running? id := by
    rw [hshows.desk]
  simp only [Office.cancel, hdesk, ← h.entered_iff]
  cases hrunning : f.desk.running? id with
  | none =>
      constructor
      · constructor
        · intro hfound
          cases hfound
        · rintro ⟨u, hu, hsession, token, hu'⟩
          have hentered := (h.entered_iff id token).mpr ⟨u, hu, hsession, hu'⟩
          rw [hrunning] at hentered
          cases hentered
      · intro token
        simp
  | some running =>
      constructor
      · obtain ⟨u, hu, hsession, hu'⟩ := (h.entered_iff id running).mp hrunning
        exact iff_of_true rfl ⟨u, hu, hsession, running, hu'⟩
      · intro token
        show token ∈ (w.trip running).tripped ↔ _
        rw [World.mem_tripped_trip, Option.some.injEq, eq_comm, or_comm]

/-- **A cancellation hits the run that is under way, and no other.** Whatever happened, and whatever
panicked: a token is entered for a session exactly while the work for that session runs an engine
with this token, which no other engine has. So a cancellation finds a run exactly if there is one,
and trips its token and nothing else; and an engine that begins to run later, for whatever session,
begins with a token that is not tripped. -/
theorem cancel_hits_current_run {maxBacklog : Option Nat} {store : SessionId → Option Snapshot}
    {f : Floor} (h : RunsWithCutsAndTrips setup isChild (opening maxBacklog store) f) :
    (∀ id token, f.desk.running? id = some token ↔
      ∃ u ∈ f.underway, u.activity.session = id ∧ u.RunsWith token) ∧
    (∀ u ∈ f.underway, ∀ v ∈ f.underway, ∀ token, u.RunsWith token →
      v.pending.engine? = some token → v = u) ∧
    (∀ (η : Type) (w : World η) underway id, w.Shows underway f →
      ((Office.cancel id w).1 = true ↔
        ∃ u ∈ f.underway, u.activity.session = id ∧ ∃ token, u.RunsWith token) ∧
      ∀ token, token ∈ (Office.cancel id w).2.tripped ↔
        token ∈ w.tripped ∨ ∃ u ∈ f.underway, u.activity.session = id ∧ u.RunsWith token) ∧
    ∀ f', StepCutOrTrip setup isChild f f' → ∀ u ∈ f'.underway, ∀ token, u.RunsWith token →
      (∃ v ∈ f.underway, v.activity = u.activity ∧ v.RunsWith token) ∨ token ∉ f'.tripped := by
  obtain ⟨horderly, hregistered⟩ := h.registered
  refine ⟨hregistered.entered_iff, ?_, ?_, ?_⟩
  · intro u hu v hv token hengine hother
    obtain ⟨-, rest, hpending⟩ := hengine
    have hown : u.pending.engine? = some token := by
      rw [hpending]
      rfl
    exact horderly.unique hu hv (hregistered.apart v hv u hu token hother hown)
  · intro η w underway id hshows
    exact hregistered.cancels hshows id
  · intro f' hnext u hu token hu'
    exact hregistered.begins_untripped horderly hnext hu hu'

/-- The prompt of a session runs, and a second one waits. -/
def runningFloor : Floor :=
  let came := ((opening none fun _ => none).receive (promptFor "first") true).2
  let second := (came.receive (promptFor "second") true).2
  let found := { second with underway := [⟨.direct ⟨"s"⟩ "first", .found (.ok none)⟩] }
  (found.advance .plain (.direct ⟨"s"⟩ "first") (.loaded (.ok none)) ([], [])).2

theorem runs_runningFloor :
    RunsWithCutsAndTrips .plain (fun _ => False) (opening none fun _ => none) runningFloor := by
  have hfirst : RunsWithCutsAndTrips .plain (fun _ => False) (opening none fun _ => none)
      ((opening none fun _ => none).receive (promptFor "first") true).2 :=
    .step .start (.steps (.receives _ (promptFor "first") true))
  have hcame := hfirst.step (.steps (.receives _ (promptFor "second") true))
  have hfound := hcame.step (.steps (.looksUp (.ok none) (alone rfl)
    fun _ h => (Except.ok.inj h).symm))
  exact hfound.step (.steps (.advances
    (u := ⟨.direct ⟨"s"⟩ "first", .found (.ok none)⟩) (alone rfl) rfl))

/-- A world that shows as that floor. -/
def runningWorld : World Unit :=
  { World.new () runningFloor.desk (.empty 1 0 []) with nextToken := 1 }

theorem cancel_hits_running_prompt :
    runningWorld.Shows runningFloor.underway runningFloor ∧
      runningFloor.desk.running? ⟨"s"⟩ = some ⟨0⟩ ∧
      (Office.cancel ⟨"s"⟩ runningWorld).1 = true ∧
      ∀ token, token ∈ (Office.cancel ⟨"s"⟩ runningWorld).2.tripped ↔ token = ⟨0⟩ := by
  have hshows : runningWorld.Shows runningFloor.underway runningFloor :=
    ⟨rfl, rfl, rfl, fun _ => Iff.rfl, .of_eq (List.append_nil _).symm⟩
  have hrunning : runningFloor.desk.running? ⟨"s"⟩ = some ⟨0⟩ := rfl
  obtain ⟨hentered, -, hcancels, -⟩ := cancel_hits_current_run runs_runningFloor
  obtain ⟨hfound, htripped⟩ := hcancels Unit runningWorld _ ⟨"s"⟩ hshows
  refine ⟨hshows, hrunning, ?_, fun token => ?_⟩
  · obtain ⟨u, hu, hsession, hruns⟩ := (hentered ⟨"s"⟩ ⟨0⟩).mp hrunning
    exact hfound.mpr ⟨u, hu, hsession, _, hruns⟩
  · have hnone : token ∉ runningWorld.tripped := List.not_mem_nil
    rw [htripped, ← hentered, hrunning, Option.some.injEq]
    simp [hnone, eq_comm]

end Floor

end AgentSessions
