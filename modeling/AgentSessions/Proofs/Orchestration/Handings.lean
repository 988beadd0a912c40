import AgentSessions.Proofs.Orchestration.Prompts

/-!
# Runs of prompts

A prompt that is handed over is worked on from that step on: its session is loaded, and then an
engine is made to run it. The log tells of both (`handlings`), and they come in turns: an engine
that runs a prompt is made next after the prompt was handed over (`Once`). So a prompt that was
handed over is run at most once, and nothing else is run.
-/

set_option autoImplicit false

namespace AgentSessions

/-! ## Handling prompts -/

/-- A step in the handling of prompts. -/
inductive Handling where
  /-- A prompt was handed over to a worker. -/
  | handed (m : QueuedMessage) (worker : Worker)
  /-- An engine was made to run a prompt. -/
  | run (prompt : String)

/-- What an entry of the log says of the handling of prompts in a session. -/
def Entry.handling? (id : SessionId) : Entry → Option Handling
  | .handed m worker => if m.sessionId = id then some (.handed m worker) else none
  | .opened _ session (some prompt) => if session.id = id then some (.run prompt) else none
  | .opened _ _ none => none
  | .came _ _ => none
  | .dropped _ => none
  | .saved _ _ _ => none

/-- How prompts were handled in a session. -/
def handlings (id : SessionId) (log : List Entry) : List Handling :=
  log.filterMap (Entry.handling? id)

theorem handlings_append (id : SessionId) (log entries : List Entry) :
    handlings id (log ++ entries) = handlings id log ++ handlings id entries :=
  List.filterMap_append

theorem handlings_map_dropped (id : SessionId) (waiting : List QueuedMessage) :
    handlings id (waiting.map .dropped) = [] := by
  refine List.filterMap_eq_nil_iff.mpr fun entry hentry => ?_
  obtain ⟨m, -, rfl⟩ := List.mem_map.mp hentry
  rfl

theorem mem_handlings {id : SessionId} {log : List Entry} {m : QueuedMessage} {worker : Worker}
    (h : .handed m worker ∈ log) (hid : m.sessionId = id) :
    .handed m worker ∈ handlings id log :=
  List.mem_filterMap.mpr ⟨_, h, if_pos hid⟩

/-- An engine runs a prompt next after it was handed over, and only then. -/
inductive Once : List Handling → Prop where
  | none : Once []
  | handed {hs : List Handling} (m : QueuedMessage) (worker : Worker) :
      Once hs → Once (hs ++ [.handed m worker])
  | run {hs : List Handling} {m : QueuedMessage} {worker : Worker} :
      Once hs → hs.getLast? = some (.handed m worker) → Once (hs ++ [.run m.prompt])

namespace Floor

/-! ## Steps -/

/-- The work on a prompt as it begins. -/
def begun (m : QueuedMessage) (worker : Worker) : Underway :=
  ⟨⟨m.sessionId, worker, .loading m.prompt⟩, .load⟩

/-- What a step has to do with the handling of prompts in a session. -/
inductive Handles (id : SessionId) (f : Floor) (entries : List Entry) (f' : Floor) : Prop where
  | nothing : handlings id entries = [] → Handles id f entries f'
  /-- A prompt is handed over, and its session is to be loaded. -/
  | hands {m : QueuedMessage} {worker : Worker} :
      m.sessionId = id → handlings id entries = [.handed m worker] →
      begun m worker ∈ f'.underway → Handles id f entries f'
  /-- An engine is made for the prompt for which the session was loaded. -/
  | runs {a next : Activity} {pending pending' : Pending} {prompt : String} :
      ⟨a, pending⟩ ∈ f.underway → a.session = id → a.stage = .loading prompt →
      handlings id entries = [.run prompt] → ⟨next, pending'⟩ ∈ f'.underway →
      next.session = id → (∀ prompt', next.stage ≠ .loading prompt') → Handles id f entries f'

theorem handles_of_handed {f f' : Floor} (id : SessionId) {entries : List Entry}
    (m : QueuedMessage) (worker : Worker)
    (hentries : handlings id entries = handlings id [.handed m worker])
    (hmem : begun m worker ∈ f'.underway) : Handles id f entries f' := by
  by_cases hid : m.sessionId = id
  · refine .hands hid ?_ hmem
    rw [hentries]
    simp [handlings, Entry.handling?, hid]
  · refine .nothing ?_
    rw [hentries]
    simp [handlings, Entry.handling?, hid]

theorem mem_settle {f : Floor} {u : Underway} (hu : u ∈ f.underway) : u ∈ f.settle.underway :=
  List.mem_append_left _ hu

theorem handles_of_receive {f : Floor} (id : SessionId) (m : QueuedMessage) (queueIfBusy : Bool) :
    Handles id f (f.receive m queueIfBusy).1 (f.receive m queueIfBusy).2 := by
  have hreceives := f.desk.receives m queueIfBusy
  rw [Floor.receive]
  generalize f.desk.receive m queueIfBusy = result at hreceives
  cases hreceives with
  | granted hidle =>
      refine handles_of_handed id m .direct rfl (mem_settle (List.mem_append_right _ ?_))
      exact List.mem_singleton.mpr rfl
  | busy | full | queued => exact .nothing rfl

theorem Orderly.handles_of_advance {f : Floor} (h : f.Orderly) (haddressed : Addressed f.desk)
    (id : SessionId) (setup : Engine.Setup) {u : Underway} {before after : List Underway}
    {answer : Answer} (hu : f.underway = before ++ u :: after)
    (hanswer : u.pending.answer? = some answer) :
    Handles id f (f.advance setup u.activity answer (before, after)).1
      (f.advance setup u.activity answer (before, after)).2 := by
  have hmem : u ∈ f.underway := mem_of_split hu
  have hmoves := (h.fits u hmem).moves hanswer ⟨f.nextToken⟩ f.desk
  rw [Floor.advance]
  generalize u.activity.advance ⟨f.nextToken⟩ answer f.desk = result at hmoves
  -- what takes the place of `u` is under way when the drains are started
  have hnew : ∀ {g : Floor} {new : List Underway} {v : Underway},
      g.underway = before ++ new ++ after → v ∈ new → v ∈ g.settle.underway := by
    intro g new v hg hv
    refine mem_settle ?_
    rw [hg]
    exact List.mem_append_left _ (List.mem_append_right _ hv)
  cases hmoves with
  | @runs prompt snapshot hstage hans =>
      by_cases hid : u.activity.session = id
      · refine .runs hmem hid hstage ?_ (hnew rfl (List.mem_singleton.mpr rfl)) hid
          fun _ => Stage.noConfusion
        simp [handlings, Course.entries, Entry.handling?, Activity.sessionOf_id, hid]
      · refine .nothing ?_
        simp [handlings, Course.entries, Entry.handling?, Activity.sessionOf_id, hid]
  | wipes hstage hans => exact .nothing rfl
  | @takes m rest hdrain hw =>
      have hm : m.sessionId = u.activity.session := by
        refine haddressed u.activity.session m ?_
        rw [hw]
        exact List.mem_cons_self
      refine handles_of_handed id m u.activity.worker ?_ (hnew rfl ?_)
      · show handlings id (((f.desk.queue.waiting u.activity.session).take 1).map _) = _
        rw [hw]
        rfl
      · rw [begun, hm]
        exact List.mem_singleton.mpr rfl
  | ends report hleaves => exact .nothing rfl

theorem Orderly.handles {setup : Engine.Setup} {isChild : SessionId → Prop} {f f' : Floor}
    {entries : List Entry} (h : f.Orderly) (haddressed : Addressed f.desk) (id : SessionId)
    (hstep : Step setup isChild f entries f') : Handles id f entries f' := by
  cases hstep with
  | receives m queueIfBusy => exact handles_of_receive id m queueIfBusy
  | wipes | cancels | looksUp | abandons | childSaves => exact .nothing rfl
  | clears id' => exact .nothing (handlings_map_dropped id _)
  | answers answer hu =>
      refine .nothing ?_
      unfold Floor.answered
      split
      all_goals rfl
  | advances hu hanswer => exact h.handles_of_advance haddressed id setup hu hanswer

/-! ## Every floor that is reached -/

/-- The work on a session agrees with the log. -/
structure Begun (id : SessionId) (log : List Entry) (f : Floor) : Prop where
  once : Once (handlings id log)
  /-- The session is loaded for the prompt that was handed over last, and no engine was made for it
  yet. -/
  loading : ∀ u ∈ f.underway, u.activity.session = id → ∀ prompt,
    u.activity.stage = .loading prompt →
    ∃ m, m.prompt = prompt ∧
      (handlings id log).getLast? = some (.handed m u.activity.worker)

section

variable {id : SessionId} {log entries : List Entry} {f f' : Floor}

theorem Begun.nothing (h : Begun id log f) (haddressed : Addressed f.desk)
    (hcomes : ∀ v ∈ f'.underway, Comes f entries v) (hnone : handlings id entries = []) :
    Begun id (log ++ entries) f' := by
  have hlog : handlings id (log ++ entries) = handlings id log := by
    rw [handlings_append, hnone, List.append_nil]
  constructor
  · rw [hlog]
    exact h.once
  · intro v hv hid prompt hstage
    rw [hlog]
    cases hcomes v hv with
    | stays hu => exact h.loading v hu hid prompt hstage
    | finds result hu hresult => exact h.loading _ hu hid prompt hstage
    | hears answer hu => exact h.loading _ hu hid prompt hstage
    | opens hu hsession hnot hentry => exact absurd hstage (hnot prompt)
    | drains | wipes => cases hstage
    | begins m hm haddress =>
        -- Such a prompt would have been noted.
        have hmid : m.sessionId = id := by
          rcases haddress with haddress | hwaiting
          · exact haddress.trans hid
          · exact (haddressed _ m hwaiting).trans hid
        have hmem := mem_handlings hm hmid
        rw [hnone] at hmem
        cases hmem

theorem Begun.step {setup : Engine.Setup} {isChild : SessionId → Prop} (h : Begun id log f)
    (horderly : f.Orderly) (haddressed : Addressed f.desk)
    (hstep : Step setup isChild f entries f') : Begun id (log ++ entries) f' := by
  have horderly' := horderly.step hstep
  cases horderly.handles haddressed id hstep with
  | nothing hnone => exact h.nothing haddressed (hstep.comes horderly.fits) hnone
  | @hands m worker hm hentries hmem =>
      rw [← hm] at hentries ⊢
      refine ⟨?_, fun v hv hid prompt hstage => ?_⟩
      · rw [handlings_append, hentries]
        exact .handed m worker (hm ▸ h.once)
      -- the work on the prompt is the only work on the session
      · obtain rfl := horderly'.unique hmem hv hid
        cases hstage
        refine ⟨m, rfl, ?_⟩
        rw [handlings_append, hentries]
        exact List.getLast?_concat
  | runs hmem ha hstage hentries hnext hsession hnot =>
      obtain ⟨m, rfl, hlast⟩ := h.loading _ hmem ha _ hstage
      refine ⟨?_, fun v hv hid prompt' hstage' => ?_⟩
      · rw [handlings_append, hentries]
        exact .run h.once hlast
      · obtain rfl := horderly'.unique hnext hv (hid.trans hsession.symm)
        exact absurd hstage' (hnot prompt')

end

variable {setup : Engine.Setup} {isChild : SessionId → Prop} {maxBacklog : Option Nat}
  {store : SessionId → Option Snapshot} {log : List Entry} {f : Floor}

theorem Runs.begun (h : Runs setup isChild (opening maxBacklog store) log f) (id : SessionId) :
    Begun id log f := by
  induction h with
  | start => exact ⟨.none, fun _ hu => absurd hu List.not_mem_nil⟩
  | step hruns hstep ih => exact ih.step hruns.orderly hruns.accounted.addressed hstep

end Floor

end AgentSessions
