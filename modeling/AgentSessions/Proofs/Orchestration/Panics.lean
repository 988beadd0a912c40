import AgentSessions.Proofs.Orchestration.Office

/-!
# Panics

The code of a collaborator (a tool, a check, a model, the store) may panic while an activity waits
for it, and the panic unwinds through the activity. On the way out a direct runner and a wiper hand
their lease off, so that a drain takes over what waits. A drain only gives its lease up and does not
look at the backlog again.

`Floor.RunsWithPanics` is any number of steps and panics in any order. The leases stay in order
whatever panics: a session is busy exactly when somebody is under way for it. But a session whose
drain panicked can be left idle with prompts waiting, and then they wait until somebody calls for
that session again.
-/

set_option autoImplicit false

namespace AgentSessions

/-! ## What can panic -/

/-- Whether the code of a collaborator is at work on the answer. -/
def Engine.Ask.isForeign : Engine.Ask → Bool
  | .now | .isCancelled | .report _ | .warn _ => false
  | .chat _ | .consult _ | .summarize _ | .check _ _ | .confirm _ | .execute _ _ _ | .review _ _
  | .save _ => true

/-- Whether what is waited for can panic. -/
def Pending.canPanic : Pending → Bool
  | .load => true
  | .engine _ (.ask question _) => question.isForeign
  | .turn | .found _ | .engine _ (.done _) => false

/-- The session that an activity leaves as it is when it panics. -/
def Activity.forsakes (a : Activity) : List SessionId :=
  match a.worker with
  | .drain => [a.session]
  | .direct | .wiper => []

theorem Activity.mem_forsakes {a : Activity} {id : SessionId} :
    id ∈ a.forsakes ↔ a.worker = .drain ∧ id = a.session := by
  unfold forsakes
  cases a.worker with
  | drain => simp
  | direct | wiper => simp

theorem Activity.abandon_drain {a : Activity} (h : a.worker = .drain) (d : Desk) :
    a.abandon d = (a.dropEngine d).release a.session := by
  unfold abandon
  rw [h]

/-- A drain gives its lease up and starts nothing. -/
theorem Activity.queue_abandon_drain {a : Activity} (h : a.worker = .drain) (d : Desk) :
    (a.abandon d).queue = d.queue.release a.session := by
  rw [abandon_drain h]
  show (a.dropEngine d).queue.release _ = _
  rw [dropEngine_queue]

namespace Floor

variable {setup : Engine.Setup} {isChild : SessionId → Prop}

/-- A step on the floor, or a panic in what an activity waits for; with the sessions that are left
as they are. -/
inductive StepOrPanic (setup : Engine.Setup) (isChild : SessionId → Prop) :
    Floor → List SessionId → Floor → Prop where
  | steps {f f' : Floor} {entries : List Entry} :
      Step setup isChild f entries f' → StepOrPanic setup isChild f [] f'
  | panics {f : Floor} {u : Underway} {before after : List Underway} :
      f.underway = before ++ u :: after → u.pending.canPanic = true →
      StepOrPanic setup isChild f u.activity.forsakes (f.abandon u.activity (before, after))

/-- Any number of steps and panics, with all the sessions that were left as they were. -/
inductive RunsWithPanics (setup : Engine.Setup) (isChild : SessionId → Prop) (start : Floor) :
    List SessionId → Floor → Prop where
  | start : RunsWithPanics setup isChild start [] start
  | step {forsaken more : List SessionId} {f f' : Floor} :
      RunsWithPanics setup isChild start forsaken f → StepOrPanic setup isChild f more f' →
      RunsWithPanics setup isChild start (forsaken ++ more) f'

/-- An activity of an office panics as one on a floor does. -/
theorem shows_panic {η : Type} {w : World η} {f : Floor} {u : Underway}
    {before after : List Underway} (h : w.Shows (before ++ u :: after) f)
    (hcan : u.pending.canPanic = true) :
    ∃ f', StepOrPanic setup isChild f u.activity.forsakes f' ∧
      (Office.abandon u.activity w).Shows (before ++ after) f' := by
  obtain ⟨before', after', hsplit, hshows⟩ := Office.shows_cut h
  exact ⟨_, .panics hsplit hcan, hshows⟩

/-! ## Leases under panics -/

theorem OrderlyBut.mono {left left' : SessionId → Prop} {f : Floor} (h : f.OrderlyBut left)
    (hsub : ∀ id, left id → left' id) : f.OrderlyBut left' :=
  ⟨h.holders, fun id hid => h.waiting id fun hleft => hid (hsub id hleft), h.fits⟩

theorem OrderlyBut.abandon {left : SessionId → Prop} {f : Floor} (h : f.OrderlyBut left)
    {u : Underway} {before after : List Underway} (hu : f.underway = before ++ u :: after)
    (hleft : ∀ id ∈ u.activity.forsakes, left id) :
    (f.abandon u.activity (before, after)).OrderlyBut left := by
  refine OrderlyBut.settle ?_
  by_cases hdrain : u.activity.worker = .drain
  · -- the lease is given up, whatever waits
    have hmem : u.activity.session ∈ u.activity.forsakes := Activity.mem_forsakes.mpr ⟨hdrain, rfl⟩
    have hqueue := Activity.queue_abandon_drain hdrain f.desk
    refine h.release hu rfl (fun hnot => absurd (hleft _ hmem) hnot) (fun id => ?_) ?_ fun id => ?_
    · show (u.activity.abandon f.desk).queue.isBusy id = _
      rw [hqueue, QueueManager.isBusy_release]
    · rw [Activity.abandon_drain hdrain]
      exact Activity.dropEngine_drains _ _
    · show (u.activity.abandon f.desk).queue.waiting id = _
      rw [hqueue, QueueManager.waiting_release]
  · exact h.leave hu rfl (Activity.leaves_abandon hdrain f.desk)

theorem OrderlyBut.stepOrPanic {left : SessionId → Prop} {f f' : Floor} {forsaken : List SessionId}
    (h : f.OrderlyBut left) (hnext : StepOrPanic setup isChild f forsaken f')
    (hleft : ∀ id ∈ forsaken, left id) : f'.OrderlyBut left := by
  cases hnext with
  | steps hstep => exact h.step hstep
  | panics hu hcan => exact h.abandon hu hleft

/-- Where nothing panics, nothing is left as it is. -/
theorem Runs.withPanics {start f : Floor} {log : List Entry} (h : Runs setup isChild start log f) :
    RunsWithPanics setup isChild start [] f := by
  induction h with
  | start => exact .start
  | step _ hstep ih => exact ih.step (.steps hstep)

theorem RunsWithPanics.orderlyBut {maxBacklog : Option Nat} {store : SessionId → Option Snapshot}
    {forsaken : List SessionId} {f : Floor}
    (h : RunsWithPanics setup isChild (opening maxBacklog store) forsaken f) :
    f.OrderlyBut (· ∈ forsaken) := by
  induction h with
  | start => exact (orderly_opening maxBacklog store).but _
  | step _ hnext ih =>
      exact (ih.mono fun id hid => List.mem_append_left _ hid).stepOrPanic hnext
        fun id hid => List.mem_append_right _ hid

theorem RunsWithPanics.drains_nil {maxBacklog : Option Nat} {store : SessionId → Option Snapshot}
    {forsaken : List SessionId} {f : Floor}
    (h : RunsWithPanics setup isChild (opening maxBacklog store) forsaken f) :
    f.desk.drains = [] := by
  induction h with
  | start => rfl
  | step _ hnext ih =>
      cases hnext with
      | steps hstep => exact hstep.drains_nil ih
      | panics => rfl

/-! ## What becomes of a backlog -/

/-- Prompts wait for a session on which nobody is at work. -/
def Stranded (f : Floor) (id : SessionId) : Prop :=
  f.desk.queue.isBusy id = false ∧ f.desk.queue.waiting id ≠ []

/-- A drain is under way for a session. -/
def Drained (f : Floor) (id : SessionId) : Prop :=
  ∃ u ∈ f.underway, u.activity.worker = .drain ∧ u.activity.session = id

theorem not_stranded_of_busy {f : Floor} {id : SessionId} (h : f.desk.queue.isBusy id = true) :
    ¬f.Stranded id := by
  rintro ⟨hidle, -⟩
  rw [h] at hidle
  cases hidle

/-- Who leaves as an activity should has a drain started for what waits. -/
theorem not_stranded_of_leaves {a : Activity} {d : Desk} {f : Floor} (h : a.Leaves d f.desk)
    (hbusy : d.queue.isBusy a.session = true) :
    ¬f.settle.Stranded a.session ∧
      (f.settle.desk.queue.waiting a.session ≠ [] → f.settle.Drained a.session) := by
  obtain ⟨desk, store, nextToken, tripped, underway⟩ := f
  dsimp only at h
  have hwaiting := h.waiting a.session
  cases h with
  | releases hnil =>
      have hnone : (Floor.mk ((a.dropEngine d).release a.session) store nextToken tripped
          underway).settle.desk.queue.waiting a.session = [] := hwaiting.trans hnil
      exact ⟨fun hstranded => hstranded.2 hnone, fun hsome => absurd hnone hsome⟩
  | handsOver hcons =>
      refine ⟨not_stranded_of_busy ?_, fun _ => ⟨⟨.drain a.session, .turn⟩, ?_, rfl, rfl⟩⟩
      · show (a.dropEngine d).queue.isBusy a.session = true
        rw [Activity.dropEngine_queue]
        exact hbusy
      · refine List.mem_append_right _ (List.mem_map_of_mem ?_)
        exact List.mem_append_right _ List.mem_cons_self

/-- How the wait of an activity ends: with what it waited for, or with a panic. -/
inductive Ends (setup : Engine.Setup) (f : Floor) (u : Underway)
    (others : List Underway × List Underway) : (panicked : Bool) → Floor → Prop where
  | returns {answer : Answer} : u.pending.answer? = some answer →
      Ends setup f u others false (f.advance setup u.activity answer others).2
  | panics : u.pending.canPanic = true →
      Ends setup f u others true (f.abandon u.activity others)

section

variable {left : SessionId → Prop} {f : Floor} {u : Underway} {before after : List Underway}

/-- An activity that gets what it waited for strands nothing, and when the engine of a prompt has
run, a drain sees to what waits. -/
theorem OrderlyBut.not_stranded_of_advance (h : f.OrderlyBut left)
    (hu : f.underway = before ++ u :: after) {answer : Answer}
    (hanswer : u.pending.answer? = some answer) :
    ¬(f.advance setup u.activity answer (before, after)).2.Stranded u.activity.session ∧
      ∀ token, u.activity.stage = .running token →
        (f.advance setup u.activity answer (before, after)).2.desk.queue.waiting
          u.activity.session ≠ [] →
        (f.advance setup u.activity answer (before, after)).2.Drained u.activity.session := by
  have hbusy := h.busy_of_mem (mem_of_split hu)
  have hmoves := (h.fits u (mem_of_split hu)).moves hanswer ⟨f.nextToken⟩ f.desk
  rw [Floor.advance]
  generalize u.activity.advance ⟨f.nextToken⟩ answer f.desk = result at hmoves
  cases hmoves with
  -- an engine is made, so none had run
  | runs hstage _ =>
      exact ⟨not_stranded_of_busy hbusy, fun token hrunning => by cases hstage.symm.trans hrunning⟩
  | wipes hstage _ =>
      exact ⟨not_stranded_of_busy hbusy, fun token hrunning => by cases hstage.symm.trans hrunning⟩
  | takes hdrain hw =>
      refine ⟨not_stranded_of_busy ?_, fun _ _ _ => ⟨_, List.mem_append_left _
        (List.mem_append_left _ (List.mem_append_right _ List.mem_cons_self)), hdrain, rfl⟩⟩
      show ((u.activity.dropEngine f.desk).afterTaking _).queue.isBusy _ = true
      rw [Desk.isBusy_afterTaking, Activity.dropEngine_queue]
      exact hbusy
  | ends report hleaves =>
      obtain ⟨hnot, hdrained⟩ := not_stranded_of_leaves (f := { f with
        desk := _
        nextToken := f.nextToken + 1
        underway := before ++ [] ++ after }) hleaves hbusy
      exact ⟨hnot, fun _ _ => hdrained⟩

/-- A panic strands what waits when it is in a drain; else a drain sees to it. -/
theorem OrderlyBut.stranded_abandon_iff (h : f.OrderlyBut left)
    (hu : f.underway = before ++ u :: after) :
    ((f.abandon u.activity (before, after)).Stranded u.activity.session ↔
        u.activity.worker = .drain ∧ f.desk.queue.waiting u.activity.session ≠ []) ∧
      (¬(f.abandon u.activity (before, after)).Stranded u.activity.session →
        (f.abandon u.activity (before, after)).desk.queue.waiting u.activity.session ≠ [] →
        (f.abandon u.activity (before, after)).Drained u.activity.session) := by
  by_cases hdrain : u.activity.worker = .drain
  · have hqueue : (f.abandon u.activity (before, after)).desk.queue =
        f.desk.queue.release u.activity.session := Activity.queue_abandon_drain hdrain f.desk
    have hidle : (f.abandon u.activity (before, after)).desk.queue.isBusy
        u.activity.session = false := by
      rw [hqueue, QueueManager.isBusy_release, if_pos rfl]
    refine ⟨?_, fun hnot hsome => absurd ⟨hidle, hsome⟩ hnot⟩
    rw [Stranded, hqueue, QueueManager.waiting_release, ← hqueue]
    exact ⟨fun hs => ⟨hdrain, hs.2⟩, fun hs => ⟨hidle, hs.2⟩⟩
  · have hleft := not_stranded_of_leaves (f := { f with
        desk := u.activity.abandon f.desk
        underway := before ++ after }) (Activity.leaves_abandon hdrain f.desk)
      (h.busy_of_mem (mem_of_split hu))
    exact ⟨⟨fun hs => absurd hs hleft.1, fun hs => absurd hs.1 hdrain⟩, fun _ => hleft.2⟩

end

/-! ## What is left stays as it is -/

/-- Who is at work on a session and what waits for it is the same at two desks. -/
def SameAt (id : SessionId) (d d' : Desk) : Prop :=
  d'.queue.isBusy id = d.queue.isBusy id ∧ d'.queue.waiting id = d.queue.waiting id

/-- A step with which somebody calls for a session: a prompt comes in for it, its history is to be
wiped, or what waits for it is dropped. -/
inductive CallsFor (id : SessionId) (f : Floor) : Floor → Prop where
  | receives (m : QueuedMessage) (queueIfBusy : Bool) : m.sessionId = id →
      CallsFor id f (f.receive m queueIfBusy).2
  | wipes : CallsFor id f (f.wipe id)
  | clears : CallsFor id f (f.clearBacklog id).2

theorem sameAt_of_queue {id : SessionId} {d d' : Desk} (h : d'.queue = d.queue) :
    SameAt id d d' := by
  rw [SameAt, h]
  exact ⟨rfl, rfl⟩

theorem sameAt_receive (d : Desk) (m : QueuedMessage) (queueIfBusy : Bool) {id : SessionId}
    (hne : id ≠ m.sessionId) : SameAt id d (d.receive m queueIfBusy).2 := by
  have hreceives := d.receives m queueIfBusy
  generalize d.receive m queueIfBusy = result at hreceives
  cases hreceives with
  | granted => exact ⟨by rw [Desk.isBusy_leased, if_neg hne], Desk.waiting_leased _ _ _⟩
  | busy | full => exact sameAt_of_queue rfl
  | queued =>
      exact ⟨Desk.isBusy_queueing _ _ _, by rw [Desk.waiting_queueing, if_neg hne]⟩

theorem sameAt_of_release {d d' : Desk} {id id' : SessionId}
    (hqueue : d'.queue = d.queue.release id') (hne : id ≠ id') : SameAt id d d' := by
  rw [SameAt, hqueue]
  exact ⟨(d.queue.isBusy_release id' id).trans (if_neg hne), d.queue.waiting_release id' id⟩

theorem sameAt_leaves {a : Activity} {d d' : Desk} (h : a.Leaves d d') {id : SessionId}
    (hne : id ≠ a.session) : SameAt id d d' := by
  cases h with
  | releases =>
      have hqueue : ((a.dropEngine d).release a.session).queue = d.queue.release a.session := by
        rw [← a.dropEngine_queue d]
        rfl
      exact sameAt_of_release hqueue hne
  | handsOver => exact sameAt_of_queue (a.dropEngine_queue d)

theorem sameAt_moves {a : Activity} {fresh : Token} {answer : Answer} {d : Desk}
    {result : Course × Desk} (h : a.Moves fresh answer d result) {id : SessionId}
    (hne : id ≠ a.session) : SameAt id d result.2 := by
  cases h with
  | runs | wipes => exact sameAt_of_queue rfl
  | takes =>
      refine ⟨?_, ?_⟩
      · rw [Desk.isBusy_afterTaking, Activity.dropEngine_queue]
      · rw [Desk.waiting_afterTaking, if_neg hne, Activity.dropEngine_queue]
  | ends report hleaves => exact sameAt_leaves hleaves hne

/-- Whoever is at work elsewhere leaves a session as it is. -/
theorem sameAt_abandon (a : Activity) (d : Desk) {id : SessionId} (hne : id ≠ a.session) :
    SameAt id d (a.abandon d) := by
  by_cases hdrain : a.worker = .drain
  · exact sameAt_of_release (Activity.queue_abandon_drain hdrain d) hne
  · exact sameAt_leaves (Activity.leaves_abandon hdrain d) hne

theorem Step.sameAt_of_idle {left : SessionId → Prop} {f f' : Floor} {entries : List Entry}
    (hstep : Step setup isChild f entries f') (h : f.OrderlyBut left) {id : SessionId}
    (hidle : f.desk.queue.isBusy id = false) : CallsFor id f f' ∨ SameAt id f.desk f'.desk := by
  -- an idle session has no work, so only who asks for it can change what the desk knows of it
  cases hstep with
  | receives m queueIfBusy =>
      by_cases heq : m.sessionId = id
      · exact .inl (.receives m queueIfBusy heq)
      · exact .inr (sameAt_receive f.desk m queueIfBusy (Ne.symm heq))
  | wipes id' =>
      by_cases heq : id' = id
      · exact .inl (heq ▸ .wipes)
      · right
        rw [Floor.wipe, Desk.lease?_eq]
        by_cases hbusy : f.desk.queue.isBusy id' = true
        · rw [if_pos hbusy]
          exact sameAt_of_queue rfl
        · rw [if_neg hbusy]
          exact ⟨(Desk.isBusy_leased _ _ _).trans (if_neg (Ne.symm heq)), Desk.waiting_leased _ _ _⟩
  | clears id' =>
      by_cases heq : id' = id
      · exact .inl (heq ▸ .clears)
      · exact .inr ⟨f.desk.queue.isBusy_clear id' id,
          (f.desk.queue.waiting_clear id' id).trans (if_neg (Ne.symm heq))⟩
  | cancels | looksUp | childSaves => exact .inr (sameAt_of_queue rfl)
  | answers answer hu =>
      right
      unfold Floor.answered
      split
      all_goals exact sameAt_of_queue rfl
  | advances hu hanswer =>
      have hmem := mem_of_split hu
      exact .inr (sameAt_moves ((h.fits _ hmem).moves hanswer ⟨f.nextToken⟩ f.desk)
        (h.ne_of_idle hidle hmem))
  | abandons hu hworker =>
      exact .inr (sameAt_abandon _ f.desk (h.ne_of_idle hidle (mem_of_split hu)))

/-- A session on which nobody is at work stays as it is until somebody calls for it. -/
theorem StepOrPanic.sameAt_of_idle {left : SessionId → Prop} {f f' : Floor}
    {forsaken : List SessionId} (hnext : StepOrPanic setup isChild f forsaken f')
    (h : f.OrderlyBut left) {id : SessionId} (hidle : f.desk.queue.isBusy id = false) :
    CallsFor id f f' ∨ SameAt id f.desk f'.desk := by
  cases hnext with
  | steps hstep => exact hstep.sameAt_of_idle h hidle
  | panics hu hcan => exact .inr (sameAt_abandon _ f.desk (h.ne_of_idle hidle (mem_of_split hu)))

theorem StepOrPanic.stranded {left : SessionId → Prop} {f f' : Floor} {forsaken : List SessionId}
    (hnext : StepOrPanic setup isChild f forsaken f') (h : f.OrderlyBut left) {id : SessionId}
    (hs : f.Stranded id) :
    CallsFor id f f' ∨
      f'.Stranded id ∧ f'.desk.queue.waiting id = f.desk.queue.waiting id := by
  refine (hnext.sameAt_of_idle h hs.1).imp_right fun hsame => ⟨⟨?_, ?_⟩, hsame.2⟩
  · rw [hsame.1]
    exact hs.1
  · rw [hsame.2]
    exact hs.2

/-! ## The main statement -/

/-- **A panic in a drain strands what waits, and nothing else does.** Whatever panics, and in
whatever order things happen: prompts are left waiting for an idle session only where a drain
panicked. However the wait of an activity ends, its session is left so exactly when the activity is
a drain, the end is a panic and something waits; otherwise, when the engine of a prompt has run or
panicked, a drain is under way for what waits. And what is left stays so until somebody calls for
the session. -/
theorem stranded_by_panicking_drains {maxBacklog : Option Nat}
    {store : SessionId → Option Snapshot} {forsaken : List SessionId} {f : Floor}
    (h : RunsWithPanics setup isChild (opening maxBacklog store) forsaken f) :
    (∀ id, f.Stranded id → id ∈ forsaken) ∧
      (∀ u before after panicked g, f.underway = before ++ u :: after →
        Ends setup f u (before, after) panicked g →
        (g.Stranded u.activity.session ↔ u.activity.worker = .drain ∧ panicked = true ∧
          f.desk.queue.waiting u.activity.session ≠ []) ∧
        ∀ token, u.activity.stage = .running token → ¬g.Stranded u.activity.session →
          g.desk.queue.waiting u.activity.session ≠ [] → g.Drained u.activity.session) ∧
      ∀ id more f', f.Stranded id → StepOrPanic setup isChild f more f' →
        CallsFor id f f' ∨
          f'.Stranded id ∧ f'.desk.queue.waiting id = f.desk.queue.waiting id := by
  have horderly := h.orderlyBut
  refine ⟨fun id hs => ?_, fun u before after panicked g hu hends => ?_,
    fun id more f' hs hnext => hnext.stranded horderly hs⟩
  · by_cases hid : id ∈ forsaken
    · exact hid
    · exact absurd (horderly.waiting id hid hs.1) hs.2
  · cases hends with
    | returns hanswer =>
        obtain ⟨hnot, hdrained⟩ := horderly.not_stranded_of_advance hu hanswer
        exact ⟨⟨fun hs => absurd hs hnot, fun hs => by cases hs.2.1⟩,
          fun token hstage _ => hdrained token hstage⟩
    | panics hcan =>
        obtain ⟨hiff, hdrained⟩ := horderly.stranded_abandon_iff hu
        refine ⟨hiff.trans ?_, fun _ _ => hdrained⟩
        simp only [true_and]

/-- The caller of the first of three prompts for a session has gone, a drain has taken the second
one, and its engine waits for the model. -/
theorem exists_drain_asking :
    ∃ log f u, Runs .plain (fun _ => False) (opening none fun _ => none) log f ∧
      f.underway = [u] ∧ u.activity = ⟨⟨"s"⟩, .drain, .running ⟨1⟩⟩ ∧
      u.pending.canPanic = true ∧ f.desk.queue.waiting ⟨"s"⟩ = [promptFor "third"] := by
  have hstart : Runs .plain (fun _ => False) (opening none fun _ => none) []
      (opening none fun _ => none) := .start
  have hcame := ((hstart.step (.receives _ (promptFor "first") true)).step
    (.receives _ (promptFor "second") true)).step (.receives _ (promptFor "third") true)
  have htaken := (hcame.step (.abandons (alone (u := ⟨.direct ⟨"s"⟩ "first", .load⟩) rfl)
    Worker.noConfusion)).step (.advances (alone rfl) rfl)
  have hloaded := (htaken.step (.looksUp (.ok none) (alone rfl)
    fun _ h => (Except.ok.inj h).symm)).step (.advances (alone rfl) rfl)
  -- the start is reported, the prompt gets its time, nothing is cancelled, a step begins
  have hasked := (((hloaded.step (.answers () (alone rfl))).step
    (.answers default (alone rfl))).step
    (.answers false (alone rfl))).step (.answers () (alone rfl))
  exact ⟨_, _, _, hasked, rfl, rfl, rfl, rfl⟩

/-- The model panics under a drain, and the prompt behind the one that ran is left waiting for a
session on which nobody is at work. -/
theorem panic_in_drain_strands_backlog :
    ∃ log f u g, Runs .plain (fun _ => False) (opening none fun _ => none) log f ∧
      f.underway = [u] ∧ u.activity = ⟨⟨"s"⟩, .drain, .running ⟨1⟩⟩ ∧
      Ends .plain f u ([], []) true g ∧ g.Stranded ⟨"s"⟩ ∧
      g.desk.queue.waiting ⟨"s"⟩ = [promptFor "third"] := by
  obtain ⟨log, f, u, hruns, hu, hactivity, hcan, hwaiting⟩ := exists_drain_asking
  have hqueue : (f.abandon u.activity ([], [])).desk.queue = f.desk.queue.release ⟨"s"⟩ := by
    rw [hactivity]
    exact Activity.queue_abandon_drain rfl f.desk
  have hleft : (f.abandon u.activity ([], [])).desk.queue.waiting ⟨"s"⟩ = [promptFor "third"] := by
    rw [hqueue, QueueManager.waiting_release, hwaiting]
  refine ⟨log, f, u, f.abandon u.activity ([], []), hruns, hu, hactivity, .panics hcan,
    ⟨?_, ?_⟩, hleft⟩
  · rw [hqueue, QueueManager.isBusy_release, if_pos rfl]
  · rw [hleft]
    exact List.cons_ne_nil _ _

/-- After that panic the third prompt waits through whatever comes next, unless somebody calls for
its session. -/
theorem stranded_by_panicking_model :
    ∃ f, RunsWithPanics .plain (fun _ => False) (opening none fun _ => none) [⟨"s"⟩] f ∧
      f.Stranded ⟨"s"⟩ ∧
      ∀ more f', StepOrPanic .plain (fun _ => False) f more f' →
        CallsFor ⟨"s"⟩ f f' ∨
          f'.Stranded ⟨"s"⟩ ∧ f'.desk.queue.waiting ⟨"s"⟩ = f.desk.queue.waiting ⟨"s"⟩ := by
  obtain ⟨log, f, u, hruns, hu, hactivity, hcan, hwaiting⟩ := exists_drain_asking
  have hends := (stranded_by_panicking_drains hruns.withPanics).2.1 u [] [] true _ (alone hu)
    (.panics hcan)
  have hs : (f.abandon u.activity ([], [])).Stranded ⟨"s"⟩ := by
    have hsession : u.activity.session = ⟨"s"⟩ := by rw [hactivity]
    have hstranded := hends.1.mpr
    rw [hsession, hwaiting] at hstranded
    exact hstranded ⟨by rw [hactivity], rfl, List.cons_ne_nil _ _⟩
  have hfloor := hruns.withPanics.step (.panics (alone hu) hcan)
  rw [hactivity] at hfloor hs
  refine ⟨_, hfloor, hs, fun more f' hnext => ?_⟩
  exact (stranded_by_panicking_drains hfloor).2.2 _ more f' hs hnext

end Floor

end AgentSessions
