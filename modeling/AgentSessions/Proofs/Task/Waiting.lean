import AgentSessions.Proofs.Simulation.Waking
import AgentSessions.Proofs.Task.Calls
import AgentSessions.Proofs.Task.Office

/-!
# Waiting for tasks

Whoever waits for tasks shares the world with everybody else: between two looks at the board the
clock goes on, and others create, start and cancel tasks, and the bodies of tasks begin and end
(`World.Passes`). What is known of a task that has ended is final under all of that, so a test that
asks for ended tasks does not fail again once it has passed, and a record that is looked up later
than the wait was over is still the one that ended it.

The three waits differ in the test and in what is looked up then (`Tasks.waiting`), and what becomes
of each is one inductive statement (`Waits`): it is refused at its first look, it ends when the test
passes, or it ends at the deadline, and until then it can be woken by either.
-/

set_option autoImplicit false

namespace AgentSessions

open Simulation (Comes Juncture Proc Progress Thread)

variable {η α : Type}

/-! ## Whom one can wait for -/

namespace Board

variable {b : Board} {id : TaskId} {ids : List TaskId} {error : TaskError}

/-- The task has ended. -/
def Over (b : Board) (id : TaskId) : Prop :=
  ∃ t, b.get? id = some t ∧ t.isTerminal = true

/-- The task waits to be started by somebody. -/
def Idle (b : Board) (id : TaskId) : Prop :=
  ∃ e, b.find? id = some e ∧ e.submitted = false ∧ e.state = .pending

/-- The task is known and was started or has passed on. -/
def Waitable (b : Board) (id : TaskId) : Prop :=
  ∃ e, b.find? id = some e ∧ (e.submitted = true ∨ e.state ≠ .pending)

/-- The first task that is unknown or was never started is the reason why one cannot wait. -/
inductive Refuses (b : Board) : List TaskId → TaskError → Prop where
  | unknown {id : TaskId} {rest : List TaskId} :
      b.find? id = none → Refuses b (id :: rest) (.notFound id)
  | unstarted {id : TaskId} {rest : List TaskId} :
      b.Idle id → Refuses b (id :: rest) (.notStarted id)
  | later {id : TaskId} {rest : List TaskId} {error : TaskError} :
      b.Waitable id → Refuses b rest error → Refuses b (id :: rest) error

theorem Waitable.find?_ne_none (h : b.Waitable id) : b.find? id ≠ none := by
  obtain ⟨e, he, -⟩ := h
  rw [he]
  exact Option.some_ne_none e

theorem Waitable.not_idle (h : b.Waitable id) : ¬b.Idle id := by
  obtain ⟨e, he, hstarted⟩ := h
  rintro ⟨e', he', hunsubmitted, hpending⟩
  obtain rfl := Option.some.inj (he.symm.trans he')
  rcases hstarted with hsubmitted | hpassed
  · exact Bool.false_ne_true (hunsubmitted.symm.trans hsubmitted)
  · exact hpassed hpending

theorem isDone_iff (b : Board) (id : TaskId) : b.isDone id = true ↔ b.Over id := by
  unfold isDone Over get?
  cases b.find? id with
  | none => simp
  | some e => simp [TaskEntry.state, Task.isTerminal]

/-- Either there is a reason why one cannot wait for the task, or one can. -/
theorem waitRefusal?_cases (b : Board) (id : TaskId) :
    (b.waitRefusal? id = some (.notFound id) ∧ b.find? id = none) ∨
      (b.waitRefusal? id = some (.notStarted id) ∧ b.Idle id) ∨
        b.waitRefusal? id = none ∧ b.Waitable id := by
  unfold waitRefusal? Idle Waitable
  cases b.find? id with
  | none => simp
  | some e =>
      right
      cases hsubmitted : e.submitted <;> by_cases hpending : e.state = .pending <;>
        simp [TaskEntry.isIdle, hsubmitted, hpending]

theorem refuses_of_waitRefusalAll? (h : b.waitRefusalAll? ids = some error) :
    b.Refuses ids error := by
  induction ids with
  | nil => cases h
  | cons id rest ih =>
      unfold waitRefusalAll? at h ih
      rw [List.findSome?_cons] at h
      rcases b.waitRefusal?_cases id with ⟨hrefusal, hnone⟩ | ⟨hrefusal, hidle⟩ | ⟨hrefusal, hknown⟩
      · rw [hrefusal] at h
        cases h
        exact .unknown hnone
      · rw [hrefusal] at h
        cases h
        exact .unstarted hidle
      · rw [hrefusal] at h
        exact .later hknown (ih h)

theorem waitable_of_waitRefusalAll? (h : b.waitRefusalAll? ids = none) :
    ∀ id ∈ ids, b.Waitable id := by
  intro id hmem
  have hrefusal := List.findSome?_eq_none_iff.mp h id hmem
  rcases b.waitRefusal?_cases id with ⟨hrefused, -⟩ | ⟨hrefused, -⟩ | ⟨-, hknown⟩
  · rw [hrefusal] at hrefused
    cases hrefused
  · rw [hrefusal] at hrefused
    cases hrefused
  · exact hknown

theorem Refuses.not_waitable (h : b.Refuses ids error) : ¬∀ id ∈ ids, b.Waitable id := by
  induction h with
  | @unknown id rest hnone => exact fun hall => (hall id List.mem_cons_self).find?_ne_none hnone
  | @unstarted id rest hidle => exact fun hall => (hall id List.mem_cons_self).not_idle hidle
  | later _ _ ih => exact fun hall => ih (List.forall_mem_cons.mp hall).2

/-- There is one reason only. -/
theorem Refuses.unique {error' : TaskError} (h : b.Refuses ids error) (h' : b.Refuses ids error') :
    error = error' := by
  induction h with
  | unknown hnone =>
      cases h' with
      | unknown => rfl
      | unstarted hidle =>
          obtain ⟨e, he, -⟩ := hidle
          rw [hnone] at he
          cases he
      | later hknown => exact (hknown.find?_ne_none hnone).elim
  | unstarted hidle =>
      cases h' with
      | unknown hnone =>
          obtain ⟨e, he, -⟩ := hidle
          rw [hnone] at he
          cases he
      | unstarted => rfl
      | later hknown => exact (hknown.not_idle hidle).elim
  | later hknown _ ih =>
      cases h' with
      | unknown hnone => exact (hknown.find?_ne_none hnone).elim
      | unstarted hidle => exact (hknown.not_idle hidle).elim
      | later _ hrest => exact ih hrest

/-- A task that cannot be waited for alone is unknown or was never started. -/
theorem refuses_singleton_iff :
    b.Refuses [id] error ↔
      (error = .notFound id ∧ b.find? id = none) ∨ (error = .notStarted id ∧ b.Idle id) := by
  constructor
  · intro h
    cases h with
    | unknown hnone => exact .inl ⟨rfl, hnone⟩
    | unstarted hidle => exact .inr ⟨rfl, hidle⟩
    | later _ hrest => cases hrest
  · rintro (⟨rfl, hnone⟩ | ⟨rfl, hidle⟩)
    · exact .unknown hnone
    · exact .unstarted hidle

end Board

/-! ## The world passes -/

namespace World

variable {m m' : Juncture (World η)} {id : TaskId} {t : Task}

/-- The clock goes on, and others do with their tasks what they like. -/
structure Passes (m m' : Juncture (World η)) : Prop where
  clock : m.now ≤ m'.now
  runs : ∃ bodies s bodies' s', m.state.Stages bodies s ∧ Site.Runs s s' ∧
    m'.state.Stages bodies' s'

/-- Some moments later. -/
abbrev Later : Juncture (World η) → Juncture (World η) → Prop :=
  Relation.ReflTransGen Passes

/-- The record of the task stays this one. -/
def ForGood (m : Juncture (World η)) (id : TaskId) (t : Task) : Prop :=
  ∀ m', Later m m' → m'.state.board.get? id = some t

/-- A world that shows as a site. -/
def showing (s : Site) : World Unit :=
  { World.new () (.empty none) s.board with
    events := (s.published.map (changeEvent 0)).toArray }

theorem stages_showing {s : Site} (h : s.Settled) : (showing s).Stages s.bodies s where
  board := rfl
  settled := h
  bodies := by
    show s.bodies.Perm (s.bodies ++ [])
    rw [List.append_nil]
  published := by
    show (s.published.map (changeEvent 0)).toArray.toList.filterMap _ = _
    exact taskChanges_map 0 s.published

theorem Passes.final (h : Passes m m') (ht : m.state.board.get? id = some t)
    (hterminal : t.isTerminal = true) : m'.state.board.get? id = some t := by
  obtain ⟨bodies, s, bodies', s', hs, hruns, hs'⟩ := h.runs
  rw [← hs.board] at ht
  rw [← hs'.board]
  exact Site.Runs.preserves (fun s s' hmove ht => hmove.records.final ht hterminal) hruns
    hs.settled ht

theorem forGood_of_isTerminal (ht : m.state.board.get? id = some t)
    (hterminal : t.isTerminal = true) : ForGood m id t := by
  intro m' h
  induction h with
  | refl => exact ht
  | tail _ hpasses ih => exact hpasses.final ih hterminal

theorem Later.over (h : Later m m') (hover : m.state.board.Over id) :
    m'.state.board.Over id := by
  obtain ⟨t, ht, hterminal⟩ := hover
  exact ⟨t, forGood_of_isTerminal ht hterminal m' h, hterminal⟩

end World

/-! ## What becomes of a wait -/

namespace Tasks

open World (ForGood Later Passes)

/-- How far a wait for some tasks has come that is to end when `Ready` holds of the board, and then
gives what `Gets` says. -/
inductive Waits (ids : List TaskId) (timeout : UInt64) (Ready : Board → Prop)
    (Gets : Except TaskError α → Prop) (first m : Juncture (World η)) :
    Progress (World η) (Except TaskError α) → Prop where
  /-- It is refused at its first look. -/
  | refused {error : TaskError} : m = first → first.state.board.Refuses ids error →
      Waits ids timeout Ready Gets first m (.finished (.error error) m.state)
  /-- It ends because the board is ready, and at once if it was ready at the beginning. -/
  | gets {result : Except TaskError α} : Later first m →
      (∀ id ∈ ids, first.state.board.Waitable id) → Ready m.state.board →
      (Ready first.state.board → m = first) → Gets result →
      Waits ids timeout Ready Gets first m (.finished result m.state)
  /-- It ends because its time is over and the board was never ready. -/
  | late : Later first m → (∀ id ∈ ids, first.state.board.Waitable id) →
      first.now + timeout.toNat ≤ m.now →
      (∀ m', Later first m' → Later m' m → ¬Ready m'.state.board) →
      Waits ids timeout Ready Gets first m (.finished (.error (.timeout timeout)) m.state)
  /-- It goes on, and ends whenever it is woken because the board is ready or its time is over. -/
  | waits {t : Thread (World η) (Except TaskError α)} : Later first m →
      (∀ id ∈ ids, first.state.board.Waitable id) →
      (∀ m', Later first m' → Later m' m → ¬Ready m'.state.board) →
      (∀ now w, t.wakeable now w = true ↔ Ready w.board ∨ first.now + timeout.toNat ≤ now) →
      (∀ fuel now w, t.wakeable now w = true → ∃ result, t.poll fuel now w = .finished result w) →
      Waits ids timeout Ready Gets first m (.suspended t m.state)

/-- Waits for some tasks unless that is refused. -/
def waiting (ids : List TaskId) (timeout : UInt64) (ready : Board → Bool)
    (view : Board → Except TaskError α) : Act η (Except TaskError α) :=
  .observe fun w =>
    match w.board.waitRefusalAll? ids with
    | some e => .done (.error e)
    | none => Proc.awaiting timeout.toNat (.error (.timeout timeout)) (fun w => ready w.board)
        fun w => view w.board

theorem wait_eq (id : TaskId) (timeout : UInt64) :
    (wait id timeout : Act η _) =
      waiting [id] timeout (fun b => b.isDone id) fun b => b.waited id := by
  refine congrArg Proc.observe (funext fun w => ?_)
  unfold Board.waitRefusalAll?
  rw [List.findSome?_cons]
  cases hrefusal : w.board.waitRefusal? id with
  | none | some e =>
      simp only [Proc.bind, hrefusal]
      rfl

theorem waitAll_eq (ids : List TaskId) (timeout : UInt64) :
    (waitAll ids timeout : Act η _) =
      waiting ids timeout (fun b => ids.all b.isDone) fun b => .ok (b.records ids) := by
  refine congrArg Proc.observe (funext fun w => ?_)
  cases hrefusal : w.board.waitRefusalAll? ids with
  | none | some e =>
      simp only [Proc.bind, hrefusal]
      rfl

/-- What somebody gets who waits for any of some tasks when there is one that has ended. -/
def anyOf (ids : List TaskId) (b : Board) : Except TaskError Task :=
  match b.firstDone? ids with
  | some t => .ok t
  | none => .error (.invalidRequest "no task ids given")

theorem waitAny_eq {ids : List TaskId} (hids : ids ≠ []) (timeout : UInt64) :
    (waitAny ids timeout : Act η _) =
      waiting ids timeout (fun b => ids.any b.isDone) (anyOf ids) := by
  unfold waitAny
  rw [if_neg (by simpa using hids)]
  refine congrArg Proc.observe (funext fun w => ?_)
  cases hrefusal : w.board.waitRefusalAll? ids with
  | none | some e =>
      simp only [Proc.bind, hrefusal]
      rfl

/-- A wait comes to what it is to come to, if the board stays ready once it is. -/
theorem waits_of_comes {ids : List TaskId} {timeout : UInt64} {ready : Board → Bool}
    {view : Board → Except TaskError α} {Ready : Board → Prop} {Gets : Except TaskError α → Prop}
    {first m : Juncture (World η)} {progress : Progress (World η) (Except TaskError α)}
    (hready : ∀ b, ready b = true ↔ Ready b)
    (hstays : ∀ {m m' : Juncture (World η)}, Later m m' → Ready m.state.board →
      Ready m'.state.board)
    (hgets : Ready m.state.board → Gets (view m.state.board))
    (h : Comes Passes (waiting ids timeout ready view) first m progress) :
    Waits ids timeout Ready Gets first m progress := by
  -- a board that was ready stays so, hence one that is not ready now never was
  have hnever : ready m.state.board = false →
      ∀ m', Later first m' → Later m' m → ¬Ready m'.state.board := by
    intro hnot m' _ hlater hover
    have hnow := (hready _).mpr (hstays hlater hover)
    exact Bool.false_ne_true (hnot.symm.trans hnow)
  have hcomes := h.of_observe
  cases hrefusal : first.state.board.waitRefusalAll? ids with
  | some error =>
      rw [hrefusal] at hcomes
      obtain ⟨rfl, rfl⟩ := Proc.Acts.of_comes (fun _ _ => rfl) hcomes
      exact .refused rfl (Board.refuses_of_waitRefusalAll? hrefusal)
  | none =>
      rw [hrefusal] at hcomes
      have hlater := ((Proc.looks_awaiting _ _ _ _).of_comes hcomes).2
      have hknown := Board.waitable_of_waitRefusalAll? hrefusal
      cases hcomes.awaits with
      | ready hnow =>
          have hover := (hready _).mp hnow
          exact .gets hlater hknown hover
            (fun hfirst => hcomes.eq_first_of_ready ((hready _).mpr hfirst)) (hgets hover)
      | late hnot hdeadline => exact .late hlater hknown hdeadline (hnever hnot)
      | waits hnot =>
          refine .waits hlater hknown (hnever hnot) (fun now w => ?_) fun fuel now w hwakeable => ?_
          · rw [Thread.wakeable_waiter, Bool.or_eq_true, hready, decide_eq_true_iff]
          · rw [Thread.wakeable_waiter, Bool.or_eq_true, decide_eq_true_iff] at hwakeable
            rw [Thread.poll_waiter]
            split
            · exact ⟨_, rfl⟩
            · rename_i hunready
              rw [if_pos (hwakeable.resolve_left hunready)]
              exact ⟨_, rfl⟩

/-! ## What is looked up in the end -/

section Gets

variable {m : Juncture (World η)} {id : TaskId} {ids : List TaskId}

/-- What somebody gets who has waited for a task. -/
inductive GetsOne (m : Juncture (World η)) (id : TaskId) : Except TaskError Task → Prop where
  | task {t : Task} : t.state = .completed ∨ t.state = .failed → ForGood m id t →
      GetsOne m id (.ok t)
  | cancelled {t : Task} : t.state = .cancelled → ForGood m id t →
      GetsOne m id (.error (.cancelled id))

/-- What somebody gets who has waited for all of some tasks. -/
inductive GetsAll (m : Juncture (World η)) (ids : List TaskId) :
    Except TaskError (List Task) → Prop where
  | tasks {ts : List Task} :
      ids.Forall₂ (fun id t => t.isTerminal = true ∧ ForGood m id t) ts → GetsAll m ids (.ok ts)

/-- What somebody gets who has waited for any of some tasks: the first one that has ended. -/
inductive GetsAny (m : Juncture (World η)) (ids : List TaskId) : Except TaskError Task → Prop where
  | task {before after : List TaskId} {id : TaskId} {t : Task} :
      ids = before ++ id :: after → (∀ id' ∈ before, ¬m.state.board.Over id') →
      t.isTerminal = true → ForGood m id t → GetsAny m ids (.ok t)

theorem getsOne_waited (h : m.state.board.Over id) : GetsOne m id (m.state.board.waited id) := by
  obtain ⟨t, ht, hterminal⟩ := h
  have hforGood := World.forGood_of_isTerminal ht hterminal
  have hid : t.id = id := by
    obtain ⟨e, he, rfl⟩ := Board.get?_eq_some ht
    exact Board.id_of_find? he
  unfold Board.waited
  rw [ht]
  dsimp only
  split
  · rename_i hcancelled
    rw [hid]
    exact .cancelled hcancelled hforGood
  · rename_i hnot
    refine .task ?_ hforGood
    unfold Task.isTerminal at hterminal
    cases hstate : t.state with
    | completed => exact .inl rfl
    | failed => exact .inr rfl
    | cancelled => exact (hnot hstate).elim
    | pending | running =>
        rw [hstate] at hterminal
        cases hterminal

theorem getsAll_records (h : ∀ id ∈ ids, m.state.board.Over id) :
    GetsAll m ids (.ok (m.state.board.records ids)) := by
  refine .tasks ?_
  induction ids with
  | nil => exact .nil
  | cons id rest ih =>
      obtain ⟨⟨t, ht, hterminal⟩, hrest⟩ := List.forall_mem_cons.mp h
      unfold Board.records at ih ⊢
      rw [List.filterMap_cons_some ht]
      exact .cons ⟨hterminal, World.forGood_of_isTerminal ht hterminal⟩ (ih hrest)

theorem getsAny_anyOf (h : ∃ id ∈ ids, m.state.board.Over id) :
    GetsAny m ids (anyOf ids m.state.board) := by
  have hany : (ids.find? m.state.board.isDone).isSome = true := by
    obtain ⟨id, hmem, hover⟩ := h
    rw [List.find?_isSome]
    exact ⟨id, hmem, (Board.isDone_iff _ _).mpr hover⟩
  obtain ⟨id, hfind⟩ := Option.isSome_iff_exists.mp hany
  obtain ⟨hdone, before, after, hids, hbefore⟩ := List.find?_eq_some_iff_append.mp hfind
  obtain ⟨t, ht, hterminal⟩ := (Board.isDone_iff _ _).mp hdone
  unfold anyOf Board.firstDone?
  rw [hfind, Option.bind_some, ht]
  refine .task hids (fun id' hmem hover => ?_) hterminal
    (World.forGood_of_isTerminal ht hterminal)
  have hnot := hbefore id' hmem
  rw [(Board.isDone_iff _ _).mpr hover] at hnot
  cases hnot

end Gets

/-! ## The three waits -/

section Waits

variable {timeout : UInt64} {first m : Juncture (World η)}

theorem waits_wait {id : TaskId} {progress : Progress (World η) (Except TaskError Task)}
    (h : Comes Passes (wait id timeout) first m progress) :
    Waits [id] timeout (·.Over id) (GetsOne m id) first m progress := by
  rw [wait_eq] at h
  exact waits_of_comes (fun b => b.isDone_iff id) World.Later.over getsOne_waited h

theorem waits_waitAll {ids : List TaskId}
    {progress : Progress (World η) (Except TaskError (List Task))}
    (h : Comes Passes (waitAll ids timeout) first m progress) :
    Waits ids timeout (fun b => ∀ id ∈ ids, b.Over id) (GetsAll m ids) first m progress := by
  rw [waitAll_eq] at h
  refine waits_of_comes (fun b => ?_) (fun hlater hover id hmem => ?_) getsAll_records h
  · rw [List.all_eq_true]
    exact forall₂_congr fun id _ => b.isDone_iff id
  · exact World.Later.over hlater (hover id hmem)

theorem waits_waitAny {ids : List TaskId} (hids : ids ≠ [])
    {progress : Progress (World η) (Except TaskError Task)}
    (h : Comes Passes (waitAny ids timeout) first m progress) :
    Waits ids timeout (fun b => ∃ id ∈ ids, b.Over id) (GetsAny m ids) first m progress := by
  rw [waitAny_eq hids] at h
  refine waits_of_comes (fun b => ?_) (fun hlater hover => ?_) getsAny_anyOf h
  · rw [List.any_eq_true]
    exact exists_congr fun id => and_congr_right fun _ => b.isDone_iff id
  · obtain ⟨id, hmem, hover⟩ := hover
    exact ⟨id, hmem, World.Later.over hlater hover⟩

/-- A wait that is to be refused is refused. -/
theorem Waits.eq_of_refuses {ids : List TaskId} {Ready : Board → Prop}
    {Gets : Except TaskError α → Prop} {progress : Progress (World η) (Except TaskError α)}
    (h : Waits ids timeout Ready Gets first m progress) {error : TaskError}
    (hrefuses : first.state.board.Refuses ids error) :
    progress = .finished (.error error) m.state := by
  cases h with
  | refused _ hrefused => rw [hrefused.unique hrefuses]
  | gets _ hknown | late _ hknown | waits _ hknown => exact (hrefuses.not_waitable hknown).elim

/-- Nothing else that a wait for a task gives is a reason not to wait for it. -/
theorem Waits.refused_iff {id : TaskId} {progress : Progress (World η) (Except TaskError Task)}
    (h : Waits [id] timeout (·.Over id) (GetsOne m id) first m progress) {error : TaskError}
    (hkind : error = .notFound id ∨ error = .notStarted id) :
    (∃ w, progress = .finished (.error error) w) ↔ first.state.board.Refuses [id] error := by
  refine ⟨?_, fun hrefuses => ⟨m.state, h.eq_of_refuses hrefuses⟩⟩
  rintro ⟨w, rfl⟩
  cases h with
  | refused _ hrefused => exact hrefused
  | gets _ _ _ _ hgets =>
      cases hgets
      rcases hkind with hkind | hkind <;> cases hkind
  | late => rcases hkind with hkind | hkind <;> cases hkind

end Waits

/-- **Waits end with their tasks.** However far a wait has come, and whatever others did meanwhile,
the world is as the others left it. A wait for one task is refused if the task is unknown or waits
to be started, and for these reasons alone; a wait for many is refused for the first of them of
which this is true. Otherwise it gives the records of tasks that have ended, and these stay what
they are; or it was cut short at its deadline, when they had not ended yet; or it goes on, and ends
as soon as it is woken by one of these. -/
theorem waits_end_with_their_tasks (timeout : UInt64) (first m : Juncture (World η)) :
    (∀ id progress, Comes Passes (wait id timeout) first m progress →
      Waits [id] timeout (·.Over id) (GetsOne m id) first m progress ∧
        ((∃ w, progress = .finished (.error (.notFound id)) w) ↔
          first.state.board.find? id = none) ∧
        ((∃ w, progress = .finished (.error (.notStarted id)) w) ↔
          first.state.board.Idle id)) ∧
      (∀ ids progress, Comes Passes (waitAll ids timeout) first m progress →
        Waits ids timeout (fun b => ∀ id ∈ ids, b.Over id) (GetsAll m ids) first m progress ∧
          (∀ error, first.state.board.Refuses ids error →
            progress = .finished (.error error) m.state) ∧
          (ids = [] → progress = .finished (.ok []) m.state)) ∧
      ∀ ids progress, Comes Passes (waitAny ids timeout) first m progress →
        (ids = [] →
          progress = .finished (.error (.invalidRequest "no task ids given")) m.state) ∧
        (ids ≠ [] →
          Waits ids timeout (fun b => ∃ id ∈ ids, b.Over id) (GetsAny m ids) first m progress ∧
            ∀ error, first.state.board.Refuses ids error →
              progress = .finished (.error error) m.state) := by
  refine ⟨fun id progress h => ?_, fun ids progress h => ?_, fun ids progress h => ⟨?_, ?_⟩⟩
  · have hwaits := waits_wait h
    refine ⟨hwaits, ?_, ?_⟩
    · rw [hwaits.refused_iff (.inl rfl), Board.refuses_singleton_iff]
      simp
    · rw [hwaits.refused_iff (.inr rfl), Board.refuses_singleton_iff]
      simp
  · have hwaits := waits_waitAll h
    refine ⟨hwaits, fun error => hwaits.eq_of_refuses, ?_⟩
    -- no task is refused where none is asked for, and all of none are over at once
    rintro rfl
    cases hwaits with
    | refused _ hrefused => cases hrefused
    | gets _ _ _ _ hgets =>
        obtain ⟨hrecords⟩ := hgets
        cases hrecords
        rfl
    | late hlater _ _ hnever | waits hlater _ hnever =>
        exact (hnever m hlater .refl fun id hmem => nomatch hmem).elim
  · rintro rfl
    obtain ⟨rfl, hends⟩ := Proc.Acts.of_comes (fun _ _ => rfl) h
    exact hends
  · intro hids
    have hwaits := waits_waitAny hids h
    exact ⟨hwaits, fun error => hwaits.eq_of_refuses⟩

/-- A site where one task is at work. -/
def workingSite : Site :=
  { ((Site.opening 1 2 ["general"]).create (Site.errand "look around") (Site.named "a")
      default).openBody ⟨"a"⟩ default ([], []) with
    bodies := [⟨⟨"a"⟩, .running⟩] }

/-- The same site when the task has answered. -/
def answeredSite : Site :=
  workingSite.closeBody ⟨"a"⟩ (.answered "found") default ([], [])

/-- Somebody waits for the task while it is at work, and is woken when it has answered. -/
theorem waits_end_with_their_tasks_once_woken :
    ∃ t, Comes Passes (wait ⟨"a"⟩ 10) ⟨0, .showing workingSite⟩ ⟨5, .showing answeredSite⟩
        (.finished (.ok t) (.showing answeredSite)) ∧ t.result = some "found" ∧
      ∀ m', Later ⟨5, .showing answeredSite⟩ m' → m'.state.board.get? ⟨"a"⟩ = some t := by
  have hpasses : Passes ⟨0, .showing workingSite⟩ ⟨5, .showing answeredSite⟩ :=
    ⟨Nat.zero_le 5, _, _, _, _, World.stages_showing ⟨rfl, rfl⟩,
      .single (.ends (.answered "found") default (Site.alone rfl)),
      World.stages_showing (Site.settled_put _ _)⟩
  have hbegun : Comes Passes (wait ⟨"a"⟩ 10) ⟨0, .showing workingSite⟩ ⟨0, .showing workingSite⟩
      (.suspended (Thread.waiter _ _ _ 10) (.showing workingSite)) := .begun 1
  have hcomes : Comes Passes (wait ⟨"a"⟩ 10) _ _
      (.finished (.ok _) (.showing answeredSite)) := hbegun.woken 1 hpasses
  obtain ⟨hwaits, -⟩ := (waits_end_with_their_tasks 10 _ _).1 ⟨"a"⟩ _ hcomes
  cases hwaits with
  | gets _ _ _ _ hgets =>
      cases hgets with
      | task _ hforGood => exact ⟨_, hcomes, rfl, hforGood⟩

end Tasks

end AgentSessions
