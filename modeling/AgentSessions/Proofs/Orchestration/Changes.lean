import AgentSessions.Proofs.Orchestration.Leases

/-!
# What is under way after a step

Everything that is under way after a step was so before, or it came about in one of a few ways
(`Floor.Comes`). Statements about all that is under way are proved by these ways, and not by the
steps.
-/

set_option autoImplicit false

namespace AgentSessions

theorem Activity.sessionOf_id (id : SessionId) (snapshot : Option Snapshot) :
    (Activity.sessionOf id snapshot).id = id := by
  cases snapshot <;> rfl

/-- An engine does not report a session that was loaded. -/
theorem Underway.Fits.found_of_loaded {a : Activity} {pending : Pending}
    (hfits : Underway.Fits ⟨a, pending⟩) {snapshot : Option Snapshot}
    (h : pending.answer? = some (.loaded (.ok snapshot))) : pending = .found (.ok snapshot) := by
  cases hfits with
  | opening id => cases h
  | loading prompt hw => cases h
  | loadingToWipe id => cases h
  | loaded prompt result hw =>
      cases h
      rfl
  | loadedToWipe id result =>
      cases h
      rfl
  -- an engine yields that it ran or wiped, and nothing else
  | running token engine hw hyields =>
      rename_i rest
      cases rest with
      | ask question next => cases h
      | done answer =>
          obtain ⟨result, rfl⟩ := hyields
          cases h
  | wiping id engine hyields =>
      rename_i rest
      cases rest with
      | ask question next => cases h
      | done answer =>
          obtain ⟨result, rfl⟩ := hyields
          cases h

namespace Floor

/-- How a piece of work came to be under way in a step from the floor `f`. -/
inductive Comes (f : Floor) (entries : List Entry) : Underway → Prop where
  | stays {u : Underway} : u ∈ f.underway → Comes f entries u
  /-- A drain was started. -/
  | drains (id : SessionId) : Comes f entries ⟨.drain id, .turn⟩
  | wipes (id : SessionId) : Comes f entries ⟨.wiper id, .load⟩
  /-- A prompt was handed over that has come in, or waited. -/
  | begins {id : SessionId} {worker : Worker} (m : QueuedMessage) :
      .handed m worker ∈ entries → m.sessionId = id ∨ m ∈ f.desk.queue.waiting id →
      Comes f entries ⟨⟨id, worker, .loading m.prompt⟩, .load⟩
  | finds {a : Activity} (result : Except StoreError (Option Snapshot)) :
      ⟨a, .load⟩ ∈ f.underway →
      (∀ snapshot, result = .ok snapshot → snapshot = f.store a.session) →
      Comes f entries ⟨a, .found result⟩
  /-- A question was answered. -/
  | hears {a : Activity} {engine : Token} {question : Engine.Ask}
      {next : question.Answer → Dialogue Answer} (answer : question.Answer) :
      ⟨a, .engine engine (.ask question next)⟩ ∈ f.underway →
      Comes f entries ⟨a, .engine engine (next answer)⟩
  /-- An engine was made over the session that was loaded. -/
  | opens {a next : Activity} {snapshot : Option Snapshot} {prompt : Option String}
      {rest : Dialogue Answer} :
      ⟨a, .found (.ok snapshot)⟩ ∈ f.underway → next.session = a.session →
      (∀ prompt, next.stage ≠ .loading prompt) →
      .opened ⟨f.nextToken⟩ (Activity.sessionOf a.session snapshot) prompt ∈ entries →
      Comes f entries ⟨next, .engine ⟨f.nextToken⟩ rest⟩

theorem comes_of_mem_settle {f g : Floor} {entries : List Entry}
    (h : ∀ v ∈ g.underway, Comes f entries v) : ∀ v ∈ g.settle.underway, Comes f entries v := by
  intro v hv
  rcases List.mem_append.mp hv with hv | hv
  · exact h v hv
  · obtain ⟨id, -, rfl⟩ := List.mem_map.mp hv
    exact .drains id

/-- One piece of work is replaced by others. -/
theorem comes_of_split {f g : Floor} {entries : List Entry} {u : Underway}
    {before new after : List Underway} (hu : f.underway = before ++ u :: after)
    (hg : g.underway = before ++ new ++ after) (hnew : ∀ v ∈ new, Comes f entries v) :
    ∀ v ∈ g.underway, Comes f entries v := by
  intro v hv
  rw [hg] at hv
  rcases List.mem_append.mp hv with hv | hv
  · rcases List.mem_append.mp hv with hv | hv
    · exact .stays (by simp [hu, hv])
    · exact hnew v hv
  · exact .stays (by simp [hu, hv])

theorem comes_of_receive {f : Floor} (m : QueuedMessage) (queueIfBusy : Bool) :
    ∀ v ∈ (f.receive m queueIfBusy).2.underway,
      Comes f (f.receive m queueIfBusy).1 v := by
  have hreceives := f.desk.receives m queueIfBusy
  rw [Floor.receive]
  generalize f.desk.receive m queueIfBusy = result at hreceives
  refine comes_of_mem_settle fun v hv => ?_
  rcases List.mem_append.mp hv with hv | hv
  · exact .stays hv
  · cases hreceives with
    | granted hidle =>
        obtain rfl := List.mem_singleton.mp hv
        exact .begins m (List.mem_cons_of_mem _ List.mem_cons_self) (.inl rfl)
    | busy | full | queued => cases hv

theorem comes_of_wipe {f : Floor} (id : SessionId) :
    ∀ v ∈ (f.wipe id).underway, Comes f [] v := by
  intro v hv
  rw [Floor.wipe, Desk.lease?_eq] at hv
  by_cases hbusy : f.desk.queue.isBusy id = true
  · rw [if_pos hbusy] at hv
    exact .stays hv
  · rw [if_neg hbusy] at hv
    rcases List.mem_append.mp hv with hv | hv
    · exact .stays hv
    · obtain rfl := List.mem_singleton.mp hv
      exact .wipes id

theorem comes_of_advance {f : Floor} (hfits : ∀ u ∈ f.underway, u.Fits) (setup : Engine.Setup)
    {u : Underway} {before after : List Underway} {answer : Answer}
    (hu : f.underway = before ++ u :: after)
    (hanswer : u.pending.answer? = some answer) :
    ∀ v ∈ (f.advance setup u.activity answer (before, after)).2.underway,
      Comes f (f.advance setup u.activity answer (before, after)).1 v := by
  have hmem : u ∈ f.underway := mem_of_split hu
  have hstands := hfits u hmem
  have hmoves := hstands.moves hanswer ⟨f.nextToken⟩ f.desk
  rw [Floor.advance]
  generalize u.activity.advance ⟨f.nextToken⟩ answer f.desk = result at hmoves
  refine comes_of_mem_settle (comes_of_split hu rfl fun v hv => ?_)
  -- a move to an engine needs a session that was loaded, which fixes what was waited for
  obtain ⟨a, pending⟩ := u
  cases hmoves with
  | runs hstage hans =>
      obtain rfl := List.mem_singleton.mp hv
      subst hans
      obtain rfl := hstands.found_of_loaded hanswer
      exact .opens hmem rfl (fun _ => Stage.noConfusion) List.mem_cons_self
  | wipes hstage hans =>
      obtain rfl := List.mem_singleton.mp hv
      subst hans
      obtain rfl := hstands.found_of_loaded hanswer
      exact .opens hmem rfl (fun _ => Stage.noConfusion) List.mem_cons_self
  | takes hdrain hw =>
      rename_i m rest
      obtain rfl := List.mem_singleton.mp hv
      refine .begins m ?_ (.inr ?_)
      · show _ ∈ ((f.desk.queue.waiting a.session).take 1).map _
        rw [hw]
        exact List.mem_cons_self
      · rw [hw]
        exact List.mem_cons_self
  | ends report hleaves => cases hv

/-- What is under way after an activity was abandoned. -/
theorem comes_of_abandon {f : Floor} {entries : List Entry} {u : Underway}
    {before after : List Underway} (hu : f.underway = before ++ u :: after) :
    ∀ v ∈ (f.abandon u.activity (before, after)).underway, Comes f entries v := by
  refine comes_of_mem_settle fun v hv => ?_
  rcases List.mem_append.mp hv with hv | hv
  · exact .stays (by simp [hu, hv])
  · exact .stays (by simp [hu, hv])

/-- How everything came about that is under way after a step. -/
theorem Step.comes {setup : Engine.Setup} {isChild : SessionId → Prop} {f f' : Floor}
    {entries : List Entry} (hstep : Step setup isChild f entries f')
    (hfits : ∀ u ∈ f.underway, u.Fits) : ∀ v ∈ f'.underway, Comes f entries v := by
  cases hstep with
  | receives m queueIfBusy => exact comes_of_receive m queueIfBusy
  | wipes id => exact comes_of_wipe id
  | clears | cancels | childSaves => exact fun v hv => .stays hv
  | looksUp result hu hresult =>
      refine comes_of_split hu (List.append_cons _ _ _) fun v hv => ?_
      obtain rfl := List.mem_singleton.mp hv
      exact .finds result (mem_of_split hu) hresult
  | answers answer hu =>
      refine comes_of_split hu (List.append_cons _ _ _) fun v hv => ?_
      obtain rfl := List.mem_singleton.mp hv
      exact .hears answer (mem_of_split hu)
  | advances hu hanswer => exact comes_of_advance hfits setup hu hanswer
  | abandons hu hworker => exact comes_of_abandon hu

end Floor

end AgentSessions
