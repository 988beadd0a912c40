import AgentSessions.Proofs.Task.Moves

/-!
# The course of a task

Whatever happens at a site, every task runs its course: it waits, may run, and ends for good in one
state. What was published of it are the states that it went through, one after the other, and its
record shows at any time which these are (`Task.Past`).

Of moves it has to be known only what they do to records (`Move.records`), and what is told to those
who cancel tasks: the first one to be told that a task was cancelled is also the last one.
-/

set_option autoImplicit false

namespace AgentSessions

namespace Site

variable {s s' : Site}

/-! ## What was published -/

theorem statesOf_of_published {c : TaskChange} (h : s'.published = s.published ++ [c])
    (id : TaskId) :
    s'.statesOf id = s.statesOf id ++ if c.id = id then [c.state] else [] := by
  unfold statesOf
  rw [h, List.filter_append, List.map_append]
  by_cases hid : c.id = id <;> simp [hid]

/-- What was published of tasks is what they went through. -/
structure Recorded (s : Site) : Prop where
  known : ∀ {id : TaskId} {t : Task}, s.board.get? id = some t → t.Past (s.statesOf id)
  unknown : ∀ {id : TaskId}, s.board.get? id = none → s.statesOf id = []

theorem Recorded.past_of_follows (hs : Recorded s) {t : Task}
    (h : Follows t (s.board.get? t.id)) : t.Past (s.statesOf t.id ++ [t.state]) := by
  generalize hold : s.board.get? t.id = old at h
  cases h with
  | enters hpast =>
      rw [hs.unknown hold]
      exact hpast
  | passes hnext => exact hnext.past _ (hs.known hold)

theorem Records.recorded (h : Records s s') (hs : Recorded s) : Recorded s' := by
  -- only the task that goes on has another state behind it
  cases h with
  | same hpublished hget =>
      have hstates : s'.statesOf = s.statesOf := by
        funext id
        unfold statesOf
        rw [hpublished]
      refine ⟨fun {id t} ht => ?_, fun {id} hnone => ?_⟩
      · rw [hget] at ht
        rw [hstates]
        exact hs.known ht
      · rw [hget] at hnone
        rw [hstates]
        exact hs.unknown hnone
  | @follows t hfollows hpublished hget =>
      have hstates := statesOf_of_published hpublished
      have hothers : ∀ id, id ≠ t.id → s'.statesOf id = s.statesOf id := by
        intro id hother
        rw [hstates, if_neg hother.symm, List.append_nil]
      refine ⟨fun {id t'} ht' => ?_, fun {id} hnone => ?_⟩
      · rw [hget] at ht'
        split at ht'
        · rename_i hid
          cases ht'
          rw [hid, hstates, if_pos rfl]
          exact hs.past_of_follows hfollows
        · rename_i hother
          rw [hothers id hother]
          exact hs.known ht'
      · rw [hget] at hnone
        split at hnone
        · cases hnone
        · rename_i hother
          rw [hothers id hother]
          exact hs.unknown hnone

/-! ## Cancellations -/

/-- Whoever was told that a task was cancelled was the only one, and the task is done. -/
structure CancelledOnce (s : Site) : Prop where
  once : ∀ id, s.answers.count (id, true) ≤ 1
  done : ∀ {id : TaskId}, (id, true) ∈ s.answers →
    ∃ t, s.board.get? id = some t ∧ t.isTerminal = true

/-- A task is cancelled, and nobody was told so before, since it was not done. -/
theorem CancelledOnce.cancels (hs : CancelledOnce s) {e : TaskEntry} {t : Task}
    (hknown : s.board.find? e.id = some e) (hnext : e.Next t) (id : TaskId) :
    (s.answers ++ [(e.id, true)]).count (id, true) ≤ 1 := by
  have hfirst : (e.id, true) ∉ s.answers := by
    intro hmem
    obtain ⟨t', ht', hterminal⟩ := hs.done hmem
    rw [Board.get?_of_find? hknown] at ht'
    cases ht'
    exact Bool.false_ne_true (hnext.not_isTerminal.symm.trans hterminal)
  rw [List.count_append, List.count_singleton]
  by_cases hid : id = e.id
  · rw [hid, List.count_eq_zero.mpr hfirst]
    simp
  · have hother : ¬((e.id, true) == (id, true)) = true := by
      simpa using fun h => hid h.symm
    rw [if_neg hother]
    exact hs.once id

theorem Move.cancelledOnce (h : Move s s') (hs : CancelledOnce s) : CancelledOnce s' := by
  have hrecords := h.records
  have hdone : ∀ {id : TaskId}, (id, true) ∈ s.answers →
      ∃ t, s'.board.get? id = some t ∧ t.isTerminal = true := by
    intro id hmem
    obtain ⟨t, ht, hterminal⟩ := hs.done hmem
    exact ⟨t, hrecords.final ht hterminal, hterminal⟩
  cases h with
  | @cancels e t hknown hnext hstate =>
      refine ⟨hs.cancels hknown hnext, fun {id} hmem => ?_⟩
      rcases List.mem_append.mp hmem with hbefore | hnow
      · exact hdone hbefore
      · obtain ⟨rfl, -⟩ := Prod.mk.inj (List.mem_singleton.mp hnow)
        have hget := Board.get?_pass hknown hnext e.id
        refine ⟨t, hget.trans (if_pos hnext.id.symm), ?_⟩
        rw [Task.isTerminal, hstate]
        rfl
  | @refuses id hterminal =>
      refine ⟨fun id' => ?_, fun {id'} hmem => ?_⟩
      · show (s.answers ++ [(id, false)]).count (id', true) ≤ 1
        have hnone : [(id, false)].count (id', true) = 0 := by
          simp
        rw [List.count_append, hnone]
        exact hs.once id'
      · rcases List.mem_append.mp hmem with hbefore | hnow
        · exact hdone hbefore
        · simp at hnow
  | adds | submits | begins | ends | admits | skips | builds | leaves => exact ⟨hs.once, hdone⟩

/-! ## Whole courses -/

/-- What holds of the records at all times. -/
structure OnCourse (s : Site) : Prop where
  recorded : Recorded s
  cancelled : CancelledOnce s

theorem onCourse_opening (maxConcurrent : Nat) (maxDepth : UInt32) (agentTypes : List String) :
    OnCourse (opening maxConcurrent maxDepth agentTypes) where
  recorded := ⟨fun h => (nomatch h), fun _ => rfl⟩
  cancelled := ⟨fun _ => Nat.zero_le 1, fun h => (nomatch h)⟩

theorem Runs.onCourse {maxConcurrent : Nat} {maxDepth : UInt32} {agentTypes : List String}
    (h : Runs (opening maxConcurrent maxDepth agentTypes) s) : OnCourse s := by
  refine Runs.preserves (fun s s' hmove hs => ?_) h (settled_opening _ _ _)
    (onCourse_opening maxConcurrent maxDepth agentTypes)
  exact ⟨hmove.records.recorded hs.recorded, hmove.cancelledOnce hs.cancelled⟩

/-- **Tasks take their course.** After any run, what was published of a task is the path that it
took from state to state, and its record has the marks of these states and no others. Nothing was
published of other tasks. The record of a task that is done stays what it is in every further run.
At most one cancellation of a task is answered with yes, and one is whenever the task is known and
not done. -/
theorem tasks_take_their_course {maxConcurrent : Nat} {maxDepth : UInt32}
    {agentTypes : List String} (h : Runs (opening maxConcurrent maxDepth agentTypes) s) :
    (∀ id t, s.board.get? id = some t → t.Past (s.statesOf id)) ∧
      (∀ id, s.board.get? id = none → s.statesOf id = []) ∧
      (∀ id t s', s.board.get? id = some t → t.isTerminal = true → Runs s s' →
        s'.board.get? id = some t) ∧
      (∀ id, s.answers.count (id, true) ≤ 1) ∧
      ∀ id now, (s.board.cancel id now).1.isSome = true ↔
        ∃ t, s.board.get? id = some t ∧ t.isTerminal = false := by
  have hcourse := Runs.onCourse h
  refine ⟨fun id t ht => hcourse.recorded.known ht, fun id hnone => hcourse.recorded.unknown hnone,
    fun id t s' ht hterminal hafter => ?_, hcourse.cancelled.once,
    fun id now => s.board.isSome_cancel_iff id now⟩
  have hsettled := Runs.settled h (settled_opening maxConcurrent maxDepth agentTypes)
  exact Runs.preserves (fun s s' hmove hs => hmove.records.final hs hterminal) hafter hsettled ht

/-- A task is cancelled while it runs, and its engine answers all the same. -/
theorem tasks_take_their_course_despite_late_answer :
    ∃ s t, Runs (opening 1 2 ["general"]) s ∧ s.board.get? ⟨"a"⟩ = some t ∧
      t.Past [.pending, .running, .cancelled] ∧ t.result = none ∧
      (∀ s', Runs s s' → s'.board.get? ⟨"a"⟩ = some t) ∧
      s.answers = [(⟨"a"⟩, true), (⟨"a"⟩, false)] := by
  have hcreated : Runs (opening 1 2 ["general"]) _ :=
    .single (.creates (errand "look around") (named "a") default rfl)
  have hopened := hcreated.tail (.opens default (alone rfl))
  have hbuilt := hopened.tail (.builds (alone rfl))
  have hcancelled := (hbuilt.tail (.cancels _ ⟨"a"⟩ default)).tail (.cancels _ ⟨"a"⟩ default)
  have hended := hcancelled.tail
    (.ends (.answered "too late") default (alone rfl))
  have hcourse := tasks_take_their_course hended
  refine ⟨_, _, hended, rfl, hcourse.1 ⟨"a"⟩ _ rfl, rfl, fun s' => ?_, rfl⟩
  exact hcourse.2.2.1 ⟨"a"⟩ _ s' rfl rfl

end Site

end AgentSessions
