import AgentSessions.Proofs.Orchestration.Changes

/-!
# Who writes a session

The engines of a session come one after another: each is made over what was saved last, and only the
engine that was made last saves (`Floor.Chained`). So what one of them has saved is never lost to
another, which would have begun without it. This needs that nobody else writes the session, and so
is said of sessions that belong to no task.
-/

set_option autoImplicit false

namespace AgentSessions

/-! ## Visits to the store -/

/-- What an engine has to do with what is stored of its session. -/
inductive Visit where
  /-- An engine was made over the session as it was loaded. -/
  | opened (engine : Token) (session : Session)
  /-- An engine saved the session. -/
  | saved (engine : Token) (snapshot : Snapshot)

/-- What an entry of the log says of the store of a session. -/
def Entry.visit? (id : SessionId) : Entry → Option Visit
  | .opened engine session _ => if session.id = id then some (.opened engine session) else none
  | .saved engine id' snapshot => if id' = id then some (.saved engine snapshot) else none
  | .came _ _ => none
  | .handed _ _ => none
  | .dropped _ => none

/-- The visits to the store of a session, in their order. -/
def visits (id : SessionId) (log : List Entry) : List Visit :=
  log.filterMap (Entry.visit? id)

theorem visits_append (id : SessionId) (log entries : List Entry) :
    visits id (log ++ entries) = visits id log ++ visits id entries :=
  List.filterMap_append

theorem visits_map_dropped (id : SessionId) (waiting : List QueuedMessage) :
    visits id (waiting.map .dropped) = [] := by
  refine List.filterMap_eq_nil_iff.mpr fun entry hentry => ?_
  obtain ⟨m, -, rfl⟩ := List.mem_map.mp hentry
  rfl

theorem visits_admission (id : SessionId) (m : QueuedMessage) (admission : Admission) :
    visits id (admission.entries m) = [] := by
  cases admission <;> rfl

theorem mem_visits_of_opened {id : SessionId} {log : List Entry} {engine : Token}
    {session : Session} {prompt : Option String} (h : .opened engine session prompt ∈ log)
    (hid : session.id = id) :
    .opened engine session ∈ visits id log :=
  List.mem_filterMap.mpr ⟨_, h, if_pos hid⟩

/-- What is stored after visits, where `initial` was stored before them. -/
def lastSaved (initial : Option Snapshot) : List Visit → Option Snapshot
  | [] => initial
  | .opened _ _ :: rest => lastSaved initial rest
  | .saved _ snapshot :: rest => lastSaved (some snapshot) rest

theorem lastSaved_append (initial : Option Snapshot) (vs ws : List Visit) :
    lastSaved initial (vs ++ ws) = lastSaved (lastSaved initial vs) ws := by
  induction vs generalizing initial with
  | nil => rfl
  | cons v rest ih =>
      cases v with
      | opened engine session => exact ih initial
      | saved engine snapshot => exact ih (some snapshot)

/-- The engine that was made last. -/
def lastOpened : List Visit → Option Token
  | [] => none
  | .opened engine _ :: rest => (lastOpened rest).or (some engine)
  | .saved _ _ :: rest => lastOpened rest

theorem lastOpened_append (vs ws : List Visit) :
    lastOpened (vs ++ ws) = (lastOpened ws).or (lastOpened vs) := by
  induction vs with
  | nil =>
      rw [List.nil_append, lastOpened, Option.or_none]
  | cons v rest ih =>
      cases v with
      | opened engine session =>
          show (lastOpened (rest ++ ws)).or _ = _
          rw [ih, Option.or_assoc]
          rfl
      | saved engine snapshot => exact ih

/-- Engines come one after another: each is made over what was saved last, and only the one that was
made last saves. -/
inductive Chained (id : SessionId) (initial : Option Snapshot) : List Visit → Prop where
  | none : Chained id initial []
  | opened {vs : List Visit} (engine : Token) :
      Chained id initial vs → (∀ session, .opened engine session ∉ vs) →
      Chained id initial
        (vs ++ [.opened engine (Activity.sessionOf id (lastSaved initial vs))])
  | saved {vs : List Visit} {engine : Token} (snapshot : Snapshot) :
      Chained id initial vs → lastOpened vs = some engine →
      Chained id initial (vs ++ [.saved engine snapshot])

namespace Floor

/-! ## Steps -/

/-- What a step has to do with what is stored of a session. -/
inductive Tends (id : SessionId) (f : Floor) (entries : List Entry) (f' : Floor) : Prop where
  | nothing : visits id entries = [] → f'.store id = f.store id → f.nextToken ≤ f'.nextToken →
      Tends id f entries f'
  /-- An engine is made. -/
  | opens {a : Activity} {snapshot : Option Snapshot} :
      ⟨a, .found (.ok snapshot)⟩ ∈ f.underway → a.session = id →
      visits id entries = [.opened ⟨f.nextToken⟩ (Activity.sessionOf id snapshot)] →
      f'.store id = f.store id → f'.nextToken = f.nextToken + 1 → Tends id f entries f'
  | saves {a : Activity} {engine : Token} {rest : Dialogue Answer} {snapshot : Snapshot} :
      ⟨a, .engine engine rest⟩ ∈ f.underway → a.session = id →
      visits id entries = [.saved engine snapshot] →
      f'.store id = some snapshot → f'.nextToken = f.nextToken → Tends id f entries f'

theorem tends_of_opening {f f' : Floor} {id : SessionId} {a : Activity}
    {snapshot : Option Snapshot} {prompt : Option String}
    (hmem : ⟨a, .found (.ok snapshot)⟩ ∈ f.underway) (hstore : f'.store = f.store)
    (hnext : f'.nextToken = f.nextToken + 1) :
    Tends id f [.opened ⟨f.nextToken⟩ (Activity.sessionOf a.session snapshot) prompt] f' := by
  by_cases hid : a.session = id
  · refine .opens hmem hid ?_ (congrFun hstore id) hnext
    rw [hid]
    simp [visits, Entry.visit?, Activity.sessionOf_id]
  · refine .nothing ?_ (congrFun hstore id) (by omega)
    simp [visits, Entry.visit?, Activity.sessionOf_id, hid]

theorem Orderly.tends_of_advance {f : Floor} (h : f.Orderly) (id : SessionId)
    (setup : Engine.Setup) {u : Underway} {before after : List Underway} {answer : Answer}
    (hu : f.underway = before ++ u :: after) (hanswer : u.pending.answer? = some answer) :
    Tends id f (f.advance setup u.activity answer (before, after)).1
      (f.advance setup u.activity answer (before, after)).2 := by
  have hmem : u ∈ f.underway := mem_of_split hu
  have hfits := h.fits u hmem
  have hmoves := hfits.moves hanswer ⟨f.nextToken⟩ f.desk
  rw [Floor.advance]
  generalize u.activity.advance ⟨f.nextToken⟩ answer f.desk = result at hmoves
  obtain ⟨a, pending⟩ := u
  cases hmoves with
  | runs hstage hans =>
      subst hans
      obtain rfl := hfits.found_of_loaded hanswer
      exact tends_of_opening hmem rfl rfl
  | wipes hstage hans =>
      subst hans
      obtain rfl := hfits.found_of_loaded hanswer
      exact tends_of_opening hmem rfl rfl
  | takes hdrain hw =>
      refine .nothing ?_ rfl (Nat.le_succ _)
      refine List.filterMap_eq_nil_iff.mpr fun entry hentry => ?_
      obtain ⟨m, -, rfl⟩ := List.mem_map.mp hentry
      rfl
  | ends report hleaves => exact .nothing rfl rfl (Nat.le_succ _)

theorem Orderly.tends {setup : Engine.Setup} {isChild : SessionId → Prop} {f f' : Floor}
    {entries : List Entry} (h : f.Orderly) {id : SessionId} (hid : ¬isChild id)
    (hstep : Step setup isChild f entries f') : Tends id f entries f' := by
  -- only a session that is opened or saved is visited, and a save has to be its own
  cases hstep with
  | receives m queueIfBusy =>
      exact .nothing (visits_admission id m _) rfl (Nat.le_refl _)
  | wipes id' =>
      rw [Floor.wipe]
      split
      · exact .nothing rfl rfl (Nat.le_refl _)
      · exact .nothing rfl rfl (Nat.le_refl _)
  | clears id' => exact .nothing (visits_map_dropped id _) rfl (Nat.le_refl _)
  | cancels | looksUp | abandons => exact .nothing rfl rfl (Nat.le_refl _)
  | answers answer hu =>
      rename_i a engine question next before after
      have hmem := mem_of_split hu
      cases question with
      | save snapshot =>
          cases answer with
          | error e => exact .nothing rfl rfl (Nat.le_refl _)
          | ok done =>
              by_cases ha : a.session = id
              · refine .saves hmem ha ?_ (if_pos ha.symm) rfl
                show visits id [.saved engine a.session snapshot] = _
                simp [visits, Entry.visit?, ha]
              · refine .nothing ?_ (if_neg (Ne.symm ha)) (Nat.le_refl _)
                show visits id [.saved engine a.session snapshot] = _
                simp [visits, Entry.visit?, ha]
      | now | isCancelled | chat | consult | summarize | check | confirm | execute | review
        | report | warn => exact .nothing rfl rfl (Nat.le_refl _)
  | advances hu hanswer => exact h.tends_of_advance id setup hu hanswer
  | childSaves snapshot hchild =>
      rename_i id'
      have hne : id ≠ id' := by
        intro heq
        rw [heq] at hid
        exact hid hchild
      exact .nothing rfl (if_neg hne) (Nat.le_refl _)

/-! ## Every floor that is reached -/

/-- The store and the engines of a session agree with the log. -/
structure Tended (id : SessionId) (initial : Option Snapshot) (log : List Entry) (f : Floor) :
    Prop where
  chained : Chained id initial (visits id log)
  stored : f.store id = lastSaved initial (visits id log)
  /-- A token is given to one engine. -/
  fresh : ∀ engine session, .opened engine session ∈ visits id log → engine.number < f.nextToken
  /-- An engine at work is the one that was made last. -/
  last : ∀ u ∈ f.underway, u.activity.session = id → ∀ engine, u.pending.engine? = some engine →
    lastOpened (visits id log) = some engine
  /-- What was loaded is still what is stored. -/
  found : ∀ u ∈ f.underway, u.activity.session = id → ∀ snapshot,
    u.pending = .found (.ok snapshot) → snapshot = f.store id

theorem tended_opening (maxBacklog : Option Nat) (store : SessionId → Option Snapshot)
    (id : SessionId) : Tended id (store id) [] (opening maxBacklog store) :=
  ⟨.none, rfl, fun _ _ h => absurd h List.not_mem_nil, fun _ h => absurd h List.not_mem_nil,
    fun _ h => absurd h List.not_mem_nil⟩

section

variable {id : SessionId} {initial : Option Snapshot} {log entries : List Entry} {f f' : Floor}

theorem Tended.nothing (h : Tended id initial log f)
    (hcomes : ∀ v ∈ f'.underway, Comes f entries v) (hvisits : visits id entries = [])
    (hstore : f'.store id = f.store id) (hnext : f.nextToken ≤ f'.nextToken) :
    Tended id initial (log ++ entries) f' := by
  have hlog : visits id (log ++ entries) = visits id log := by
    rw [visits_append, hvisits, List.append_nil]
  refine ⟨?_, ?_, ?_, ?_, ?_⟩
  · rw [hlog]
    exact h.chained
  · rw [hlog, hstore]
    exact h.stored
  · intro engine session hmem
    rw [hlog] at hmem
    exact Nat.lt_of_lt_of_le (h.fresh engine session hmem) hnext
  · intro v hv hid engine hengine
    rw [hlog]
    cases hcomes v hv with
    | stays hu => exact h.last v hu hid engine hengine
    | hears answer hu => exact h.last _ hu hid engine hengine
    | drains | wipes | begins | finds => cases hengine
    -- an engine that was made for this session would be among the visits
    | opens hu hsession hnot hentry =>
        have hmem := mem_visits_of_opened hentry
          ((Activity.sessionOf_id _ _).trans (hsession.symm.trans hid))
        rw [hvisits] at hmem
        cases hmem
  · intro v hv hid snapshot hfound
    rw [hstore]
    cases hcomes v hv with
    | stays hu => exact h.found v hu hid snapshot hfound
    | finds result hu hresult =>
        cases hfound
        subst hid
        exact hresult snapshot rfl
    | drains | wipes | begins | hears | opens => cases hfound

theorem Tended.opens (h : Tended id initial log f) (horderly : f.Orderly)
    (hcomes : ∀ v ∈ f'.underway, Comes f entries v) {a : Activity} {snapshot : Option Snapshot}
    (hmem : ⟨a, .found (.ok snapshot)⟩ ∈ f.underway) (ha : a.session = id)
    (hvisits : visits id entries = [.opened ⟨f.nextToken⟩ (Activity.sessionOf id snapshot)])
    (hstore : f'.store id = f.store id) (hnext : f'.nextToken = f.nextToken + 1) :
    Tended id initial (log ++ entries) f' := by
  -- nobody saved since the session was loaded, so the engine begins with what was saved last
  have hloaded : snapshot = lastSaved initial (visits id log) :=
    (h.found _ hmem ha snapshot rfl).trans h.stored
  have honly : ∀ v ∈ f.underway, v.activity.session = id → v = ⟨a, .found (.ok snapshot)⟩ :=
    fun v hv hid => horderly.unique hmem hv (hid.trans ha.symm)
  refine ⟨?_, ?_, ?_, ?_, ?_⟩
  · rw [visits_append, hvisits, hloaded]
    refine .opened _ h.chained fun session hsession => ?_
    exact Nat.lt_irrefl _ (h.fresh _ session hsession)
  · rw [visits_append, hvisits, lastSaved_append, hstore]
    exact h.stored
  · intro engine session hopened
    rw [visits_append, hvisits] at hopened
    rw [hnext]
    rcases List.mem_append.mp hopened with hopened | hopened
    · exact Nat.lt_succ_of_lt (h.fresh engine session hopened)
    · cases List.mem_singleton.mp hopened
      exact Nat.lt_succ_self _
  · intro v hv hid engine hengine
    rw [visits_append, hvisits, lastOpened_append]
    cases hcomes v hv with
    | opens hu hsession hnot hentry =>
        cases hengine
        rfl
    | stays hu =>
        obtain rfl := honly v hu hid
        cases hengine
    -- no other engine is at work, which could hear an answer
    | hears answer hu => cases honly _ hu hid
    | drains | wipes | begins | finds => cases hengine
  · intro v hv hid snapshot' hfound
    rw [hstore]
    cases hcomes v hv with
    | stays hu => exact h.found v hu hid snapshot' hfound
    | finds result hu hresult => cases honly _ hu hid
    | drains | wipes | begins | hears | opens => cases hfound

theorem Tended.saves (h : Tended id initial log f) (horderly : f.Orderly)
    (hcomes : ∀ v ∈ f'.underway, Comes f entries v) {a : Activity} {engine : Token}
    {rest : Dialogue Answer} {snapshot : Snapshot}
    (hmem : ⟨a, .engine engine rest⟩ ∈ f.underway) (ha : a.session = id)
    (hvisits : visits id entries = [.saved engine snapshot])
    (hstore : f'.store id = some snapshot) (hnext : f'.nextToken = f.nextToken) :
    Tended id initial (log ++ entries) f' := by
  have hlast : lastOpened (visits id log) = some engine := h.last _ hmem ha engine rfl
  have honly : ∀ v ∈ f.underway, v.activity.session = id → v = ⟨a, .engine engine rest⟩ :=
    fun v hv hid => horderly.unique hmem hv (hid.trans ha.symm)
  refine ⟨?_, ?_, ?_, ?_, ?_⟩
  · rw [visits_append, hvisits]
    exact .saved snapshot h.chained hlast
  · rw [visits_append, hvisits, lastSaved_append]
    exact hstore
  · intro engine' session hopened
    rw [visits_append, hvisits] at hopened
    rw [hnext]
    rcases List.mem_append.mp hopened with hopened | hopened
    · exact h.fresh engine' session hopened
    · cases List.mem_singleton.mp hopened
  · intro v hv hid engine' hengine
    rw [visits_append, hvisits, lastOpened_append]
    show lastOpened (visits id log) = _
    cases hcomes v hv with
    | stays hu => exact h.last v hu hid engine' hengine
    | hears answer hu => exact h.last _ hu hid engine' hengine
    | drains | wipes | begins | finds => cases hengine
    | opens hu hsession hnot hentry => cases honly _ hu (hsession.symm.trans hid)
  · intro v hv hid snapshot' hfound
    cases hcomes v hv with
    | stays hu =>
        obtain rfl := honly v hu hid
        cases hfound
    -- the engine that saves is alone, so nobody holds what was stored before
    | finds result hu hresult => cases honly _ hu hid
    | drains | wipes | begins | hears | opens => cases hfound

theorem Tended.step {setup : Engine.Setup} {isChild : SessionId → Prop}
    (h : Tended id initial log f) (horderly : f.Orderly) (hid : ¬isChild id)
    (hstep : Step setup isChild f entries f') : Tended id initial (log ++ entries) f' := by
  have hcomes := hstep.comes horderly.fits
  cases horderly.tends hid hstep with
  | nothing hvisits hstore hnext => exact h.nothing hcomes hvisits hstore hnext
  | opens hmem ha hvisits hstore hnext =>
      exact h.opens horderly hcomes hmem ha hvisits hstore hnext
  | saves hmem ha hvisits hstore hnext =>
      exact h.saves horderly hcomes hmem ha hvisits hstore hnext

end

variable {setup : Engine.Setup} {isChild : SessionId → Prop} {maxBacklog : Option Nat}
  {store : SessionId → Option Snapshot} {log : List Entry} {f : Floor}

theorem Runs.tended (h : Runs setup isChild (opening maxBacklog store) log f) {id : SessionId}
    (hid : ¬isChild id) : Tended id (store id) log f := by
  induction h with
  | start => exact tended_opening maxBacklog store id
  | step hruns hstep ih => exact ih.step hruns.orderly hid hstep

end Floor

end AgentSessions
