import AgentSessions.Proofs.Task.Moves
import Mathlib.Data.List.Nodup

/-!
# Admission in turn

A slot is free or a body holds it, and a body holds one from its admission until it is done,
whatever becomes of its task meanwhile (`Staffed`). The queue is worked off from its front: those
whom it is done with were admitted in the order in which they were submitted, except for those who
were cancelled while they waited (`InTurn`). Both are preserved by every move.

That nobody waits while a slot is free holds between steps only. Whoever submits a task or gives a
slot back also admits, and admission ends when there is no free slot or nobody waits (`Greedy`).
-/

set_option autoImplicit false

namespace AgentSessions

namespace Board

variable {b : Board} {e : TaskEntry} {t : Task}

/-! ## Who was submitted -/

/-- Whether a task was submitted. -/
def wasSubmitted (b : Board) (id : TaskId) : Bool :=
  (b.find? id).any TaskEntry.submitted

theorem wasSubmitted_add (hnew : b.find? e.id = none) (hsubmitted : e.submitted = false)
    (id : TaskId) : (b.add e).wasSubmitted id = b.wasSubmitted id := by
  unfold wasSubmitted
  rw [find?_add hnew]
  by_cases hid : id = e.id
  · rw [if_pos hid, hid, hnew, Option.any_some, hsubmitted, Option.any_none]
  · rw [if_neg hid]

theorem wasSubmitted_submit (hknown : b.find? e.id = some e) (id : TaskId) :
    (b.submit e).wasSubmitted id = (decide (id = e.id) || b.wasSubmitted id) := by
  unfold wasSubmitted
  rw [find?_submit hknown]
  by_cases hid : id = e.id
  · rw [if_pos hid, decide_eq_true hid, Bool.true_or, Option.any_some]
  · rw [if_neg hid, decide_eq_false hid, Bool.false_or]

theorem wasSubmitted_pass (hknown : b.find? e.id = some e) (hnext : e.Next t) (id : TaskId) :
    (b.pass e t).wasSubmitted id = b.wasSubmitted id := by
  unfold wasSubmitted
  rw [find?_pass hknown hnext]
  by_cases hid : id = t.id
  · rw [if_pos hid, hid, hnext.id, hknown, Option.any_some, Option.any_some]
  · rw [if_neg hid]

theorem known_of_wasSubmitted {id : TaskId} (h : b.wasSubmitted id = true) :
    ∃ t, b.get? id = some t := by
  unfold wasSubmitted at h
  cases hfind : b.find? id with
  | none =>
      rw [hfind] at h
      cases h
  | some e => exact ⟨e.task, get?_of_find? hfind⟩

theorem find?_of_mem (hnodup : (b.entries.map TaskEntry.id).Nodup) (he : e ∈ b.entries) :
    b.find? e.id = some e := by
  cases hfind : b.find? e.id with
  | none =>
      have hnone := List.find?_eq_none.mp hfind e he
      simp at hnone
  | some e' =>
      have hsame := List.inj_on_of_nodup_map hnodup (mem_of_find? hfind) he (id_of_find? hfind)
      rw [hsame]

/-! ## Greed -/

/-- No slot is free while somebody waits. -/
def Greedy (b : Board) : Prop :=
  b.free = 0 ∨ b.waiting = []

theorem greedy_fill (b : Board) (free : Nat) (waiting : List TaskId) :
    (b.fill free waiting).Greedy := by
  fun_induction fill b free waiting with
  | case1 b waiting => exact .inl rfl
  | case2 b free => exact .inr rfl
  | case3 b free id rest hpending ih => exact ih
  | case4 b free id rest hpending ih => exact ih

theorem greedy_pump (b : Board) : b.pump.Greedy :=
  b.greedy_fill b.free b.waiting

theorem greedy_start (h : b.Greedy) (id : TaskId) : (b.start id).2.Greedy := by
  have hstarts := b.starts_start id
  generalize b.start id = result at hstarts
  cases hstarts with
  | refused error => exact h
  | done hknown hsubmitted => exact greedy_pump _

theorem greedy_create (h : b.Greedy) (r : TaskRequest) (fresh : Fresh) (now : Instant) :
    (b.create r fresh now).2.Greedy := by
  have hcreates := b.creates_create r fresh now
  generalize b.create r fresh now = result at hcreates
  cases hcreates with
  | refused error => exact h
  | @done e hid hsubmitted hpast =>
      have hadded : (b.add e).Greedy := h
      split
      · exact greedy_start hadded fresh.task
      · exact hadded

theorem greedy_cancel (h : b.Greedy) (id : TaskId) (now : Instant) :
    (b.cancel id now).2.Greedy := by
  have hcancels := b.cancels_cancel id now
  generalize b.cancel id now = result at hcancels
  cases hcancels with
  | refused hterminal => exact h
  | done hknown hnext hstate => exact h

end Board

namespace Site

variable {s s' : Site}

theorem Step.greedy (h : Step s s') (hs : s.board.Greedy) : s'.board.Greedy := by
  cases h with
  | creates r fresh now hnew =>
      have hcreated := Board.greedy_create hs r fresh now
      unfold create
      generalize s.board.create r fresh now = result at hcreated
      exact hcreated
  | starts id =>
      have hstarted := Board.greedy_start hs id
      unfold start
      generalize s.board.start id = result at hstarted
      exact hstarted
  | cancels id now => exact Board.greedy_cancel hs id now
  | shutsDown now => exact .inr rfl
  | waits => exact hs
  | @opens id before after now hbodies =>
      have hbegins := s.board.begins_begin id now
      unfold openBody
      generalize s.board.begin id now = result at hbegins
      cases hbegins with
      | refused hrefused => exact Board.greedy_pump _
      | done hknown hnext hstate => exact hs
  | builds hbodies => exact hs
  | fails text now hbodies => exact Board.greedy_pump _
  | ends result now hbodies => exact Board.greedy_pump _

theorem Runs.greedy (h : Runs s s') (hs : s.board.Greedy) : s'.board.Greedy := by
  induction h with
  | refl => exact hs
  | tail _ hstep ih => exact hstep.greedy ih

/-! ## Slots -/

/-- Every slot is free or held by a body. -/
theorem Move.slots (h : Move s s') :
    s'.board.free + s'.bodies.length = s.board.free + s.bodies.length := by
  cases h with
  | adds | submits | cancels | refuses | skips | ends => rfl
  | @admits id rest free hfree hwaiting hpending =>
      show free + (s.bodies ++ [_]).length = s.board.free + s.bodies.length
      rw [hfree, List.length_append, List.length_singleton]
      omega
  | begins hbodies hknown hnext hstate =>
      rw [hbodies, List.length_append, List.length_append]
      rfl
  | builds hbodies =>
      rw [hbodies, List.length_append, List.length_append]
      rfl
  | leaves hbodies hdone =>
      rw [hbodies, List.length_append, List.length_append, List.length_cons]
      show s.board.free + 1 + _ = _
      omega

/-! ## Submissions -/

/-- Every task is entered once and submitted at most once. -/
structure Marked (s : Site) : Prop where
  entries : (s.board.entries.map TaskEntry.id).Nodup
  once : s.submitted.Nodup
  submitted : ∀ id, id ∈ s.submitted ↔ s.board.wasSubmitted id = true

theorem Marked.pass (hs : Marked s) {e : TaskEntry} {t : Task}
    (hknown : s.board.find? e.id = some e) (hnext : e.Next t)
    (hboard : s'.board = (s.pass e t).board) (hsubmitted : s'.submitted = s.submitted) :
    Marked s' := by
  refine ⟨?_, ?_, fun id => ?_⟩
  · rw [hboard]
    exact (Board.map_id_replace s.board _).symm ▸ hs.entries
  · rw [hsubmitted]
    exact hs.once
  · rw [hboard, hsubmitted]
    exact (hs.submitted id).trans (Board.wasSubmitted_pass hknown hnext id ▸ Iff.rfl)

theorem Move.marked (h : Move s s') (hs : Marked s) : Marked s' := by
  cases h with
  | @adds e hnew hsubmitted hpast =>
      refine ⟨?_, hs.once, fun id => ?_⟩
      · show ((s.board.entries ++ [e]).map TaskEntry.id).Nodup
        rw [List.map_append, List.map_singleton, ← List.concat_eq_append]
        refine hs.entries.concat fun hid => ?_
        obtain ⟨e', he', hsame⟩ := List.mem_map.mp hid
        have hnone := List.find?_eq_none.mp hnew e' he'
        simp [hsame] at hnone
      · exact (hs.submitted id).trans (Board.wasSubmitted_add hnew hsubmitted id ▸ Iff.rfl)
  | @submits e hknown hsubmitted =>
      have hbefore : e.id ∉ s.submitted := by
        rw [hs.submitted]
        unfold Board.wasSubmitted
        rw [hknown, Option.any_some, hsubmitted]
        exact Bool.false_ne_true
      refine ⟨?_, ?_, fun id => ?_⟩
      · exact (Board.map_id_replace s.board _).symm ▸ hs.entries
      · rw [← List.concat_eq_append]
        exact hs.once.concat hbefore
      · rw [List.mem_append, List.mem_singleton, hs.submitted, Board.wasSubmitted_submit hknown,
          Bool.or_eq_true, decide_eq_true_iff, or_comm]
  | cancels hknown hnext hstate => exact hs.pass hknown hnext rfl rfl
  | begins hbodies hknown hnext hstate => exact hs.pass hknown hnext rfl rfl
  | ends hbody hstage hknown hnext hterminal => exact hs.pass hknown hnext rfl rfl
  | refuses | admits | skips | builds | leaves => exact ⟨hs.entries, hs.once, hs.submitted⟩

/-! ## Turns -/

/-- The queue is done with the tasks `passed`. They were admitted in their turn, but for those who
had been cancelled. -/
structure InTurn (s : Site) (passed : List TaskId) : Prop where
  submitted : s.submitted = passed ++ s.board.waiting
  admitted : s.admitted.Sublist passed
  others : ∀ id ∈ passed, id ∉ s.admitted → ∃ t, s.board.get? id = some t ∧ t.state = .cancelled

/-- A task that was never admitted still waits or is cancelled. -/
structure Queued (s : Site) : Prop where
  inTurn : ∃ passed, InTurn s passed
  outside : ∀ {id : TaskId} {t : Task}, s.board.get? id = some t → id ∉ s.admitted →
    t.state = .pending ∨ t.state = .cancelled

/-- Whoever was cancelled stays so. -/
theorem Records.cancelled (h : Records s s') {id : TaskId}
    (hs : ∃ t, s.board.get? id = some t ∧ t.state = .cancelled) :
    ∃ t, s'.board.get? id = some t ∧ t.state = .cancelled := by
  obtain ⟨t, ht, hstate⟩ := hs
  refine ⟨t, h.final ht ?_, hstate⟩
  rw [Task.isTerminal, hstate]
  rfl

/-- A move that lets nobody into the queue and nobody out of it. -/
theorem InTurn.of_eq {passed : List TaskId} (hs : InTurn s passed) (h : Records s s')
    (hsubmitted : s'.submitted = s.submitted) (hadmitted : s'.admitted = s.admitted)
    (hwaiting : s'.board.waiting = s.board.waiting) : InTurn s' passed where
  submitted := by rw [hsubmitted, hwaiting, hs.submitted]
  admitted := hadmitted ▸ hs.admitted
  others := fun id hmem hout => h.cancelled (hs.others id hmem (hadmitted ▸ hout))

theorem InTurn.submits {passed : List TaskId} (hs : InTurn s passed) (h : Records s s')
    {id : TaskId} (hsubmitted : s'.submitted = s.submitted ++ [id])
    (hadmitted : s'.admitted = s.admitted)
    (hwaiting : s'.board.waiting = s.board.waiting ++ [id]) : InTurn s' passed where
  submitted := by rw [hsubmitted, hwaiting, hs.submitted, List.append_assoc]
  admitted := hadmitted ▸ hs.admitted
  others := fun id hmem hout => h.cancelled (hs.others id hmem (hadmitted ▸ hout))

theorem InTurn.admits {passed rest : List TaskId} (hs : InTurn s passed) {id : TaskId}
    {free : Nat} (hwaiting : s.board.waiting = id :: rest) :
    InTurn (s.letIn id rest free) (passed ++ [id]) where
  submitted := by
    show s.submitted = _
    rw [hs.submitted, hwaiting, List.append_assoc]
    rfl
  admitted := hs.admitted.append (.refl [id])
  others := by
    intro id' hmem hout
    have hbefore : id' ∉ s.admitted ∧ id' ≠ id := by
      simpa [letIn] using hout
    rcases List.mem_append.mp hmem with hpassed | hnow
    · exact hs.others id' hpassed hbefore.1
    · exact absurd (List.mem_singleton.mp hnow) hbefore.2

theorem InTurn.skips {passed rest : List TaskId} (hs : InTurn s passed) {id : TaskId}
    (hwaiting : s.board.waiting = id :: rest)
    (hcancelled : id ∉ s.admitted → ∃ t, s.board.get? id = some t ∧ t.state = .cancelled) :
    InTurn { s with board := { s.board with waiting := rest } } (passed ++ [id]) where
  submitted := by
    show s.submitted = _
    rw [hs.submitted, hwaiting, List.append_assoc]
    rfl
  admitted := hs.admitted.trans (List.sublist_append_left passed [id])
  others := by
    intro id' hmem hout
    rcases List.mem_append.mp hmem with hpassed | hnow
    · exact hs.others id' hpassed hout
    · obtain rfl := List.mem_singleton.mp hnow
      exact hcancelled hout

/-! ## Staff -/

/-- Every admitted task has a body until it is done, and the stage of the body fits the state of the
task, if it is not done. -/
structure Staffed (s : Site) : Prop where
  nodup : (s.bodies.map Body.id).Nodup
  admitted : ∀ body ∈ s.bodies, body.id ∈ s.admitted
  stage : ∀ body ∈ s.bodies, ∀ t, s.board.get? body.id = some t →
    t.isTerminal = true ∨ t.state = body.stage.state
  atWork : ∀ id ∈ s.admitted, ∃ t, s.board.get? id = some t ∧
    (t.isTerminal = true ∨ id ∈ s.bodies.map Body.id)

theorem Records.known (h : Records s s') {id : TaskId} (hs : ∃ t, s.board.get? id = some t) :
    ∃ t, s'.board.get? id = some t := by
  obtain ⟨t, ht⟩ := hs
  cases h with
  | same hpublished hget => exact ⟨t, (hget id).trans ht⟩
  | @follows t' hfollows hpublished hget =>
      rw [hget]
      split
      · exact ⟨t', rfl⟩
      · exact ⟨t, ht⟩

/-- A move that neither brings a body nor takes one away. -/
theorem Staffed.of_eq (hs : Staffed s) (h : Records s s')
    (hbodies : s'.bodies.map Body.id = s.bodies.map Body.id) (hadmitted : s'.admitted = s.admitted)
    (hstage : ∀ body ∈ s'.bodies, ∀ t, s'.board.get? body.id = some t →
      t.isTerminal = true ∨ t.state = body.stage.state) : Staffed s' where
  nodup := hbodies ▸ hs.nodup
  admitted := by
    intro body hmem
    have hid : body.id ∈ s.bodies.map Body.id := hbodies ▸ List.mem_map_of_mem hmem
    obtain ⟨body', hmem', hsame⟩ := List.mem_map.mp hid
    rw [hadmitted, ← hsame]
    exact hs.admitted body' hmem'
  stage := hstage
  atWork := by
    intro id hmem
    obtain ⟨t, ht, hterminal | hbody⟩ := hs.atWork id (hadmitted ▸ hmem)
    · exact ⟨t, h.final ht hterminal, .inl hterminal⟩
    · obtain ⟨t', ht'⟩ := h.known ⟨t, ht⟩
      exact ⟨t', ht', .inr (hbodies ▸ hbody)⟩

theorem Staffed.known (hs : Staffed s) {body : Body} (hmem : body ∈ s.bodies) :
    ∃ t, s.board.get? body.id = some t := by
  obtain ⟨t, ht, -⟩ := hs.atWork body.id (hs.admitted body hmem)
  exact ⟨t, ht⟩

/-- A task with a body passes on, and the body fits its next state. -/
theorem Staffed.stage_of_pass (hs : Staffed s) {e : TaskEntry} {t : Task}
    (hknown : s.board.find? e.id = some e) (hnext : e.Next t) {body : Body}
    (hmem : body ∈ s.bodies)
    (hfits : body.id = e.id → t.isTerminal = true ∨ t.state = body.stage.state)
    {t' : Task} (ht' : (s.board.pass e t).get? body.id = some t') :
    t'.isTerminal = true ∨ t'.state = body.stage.state := by
  rw [Board.get?_pass hknown hnext, hnext.id] at ht'
  split at ht'
  · rename_i hid
    cases ht'
    exact hfits hid
  · exact hs.stage body hmem t' ht'

theorem mem_of_others {body other : Body} {before after : List Body}
    (hbodies : s.bodies = before ++ body :: after) (hmem : other ∈ before ++ after) :
    other ∈ s.bodies := by
  rw [hbodies]
  exact List.perm_middle.mem_iff.mpr (List.mem_cons_of_mem _ hmem)

/-- No task has two bodies. -/
theorem Staffed.ne_of_mem (hs : Staffed s) {body other : Body} {before after : List Body}
    (hbodies : s.bodies = before ++ body :: after) (hmem : other ∈ before ++ after) :
    other.id ≠ body.id := by
  have hnodup := hs.nodup
  rw [hbodies, List.map_append, List.map_cons, List.nodup_middle, List.nodup_cons,
    ← List.map_append] at hnodup
  exact fun hid => hnodup.1 (hid ▸ List.mem_map_of_mem hmem)

/-- A new task has no body, for every task with a body is known. -/
theorem Staffed.adds (hs : Staffed s) {e : TaskEntry} (h : Records s (s.add e))
    (hnew : s.board.find? e.id = none) : Staffed (s.add e) := by
  refine hs.of_eq h rfl rfl fun body hmem t ht => ?_
  rw [show (s.add e).board.get? body.id = _ from Board.get?_add hnew body.id] at ht
  split at ht
  · rename_i hid
    obtain ⟨t', ht'⟩ := hs.known hmem
    rw [hid] at ht'
    obtain ⟨e', he', -⟩ := Board.get?_eq_some ht'
    rw [hnew] at he'
    cases he'
  · exact hs.stage body hmem t ht

/-- The body of a task begins, and the bodies of other tasks are left alone. -/
theorem Staffed.begins (hs : Staffed s) {e : TaskEntry} {t : Task} {before after : List Body}
    (h : Records s { s.pass e t with bodies := before ++ ⟨e.id, .building⟩ :: after })
    (hbodies : s.bodies = before ++ ⟨e.id, .opening⟩ :: after)
    (hknown : s.board.find? e.id = some e) (hnext : e.Next t) (hstate : t.state = .running) :
    Staffed { s.pass e t with bodies := before ++ ⟨e.id, .building⟩ :: after } := by
  have hmap : (before ++ ⟨e.id, .building⟩ :: after).map Body.id = s.bodies.map Body.id := by
    simp [hbodies]
  refine hs.of_eq h hmap rfl fun body hmem t' ht' => ?_
  rcases List.mem_cons.mp (List.perm_middle.mem_iff.mp hmem) with rfl | hothers
  · have hget : (s.board.pass e t).get? e.id = some t := by
      rw [Board.get?_pass hknown hnext, if_pos hnext.id.symm]
    have hsame : some t' = some t := ht'.symm.trans hget
    cases hsame
    exact .inr hstate
  · exact hs.stage_of_pass hknown hnext (mem_of_others hbodies hothers)
      (fun hid => absurd hid (hs.ne_of_mem hbodies hothers)) ht'

/-- A task that waited gets a body. -/
theorem Staffed.admits (hs : Staffed s) {id : TaskId} (rest : List TaskId) (free : Nat)
    (hnew : id ∉ s.admitted) {t : Task} (hknown : s.board.get? id = some t)
    (hstate : t.state = .pending) : Staffed (s.letIn id rest free) where
  nodup := by
    show ((s.bodies ++ [Body.mk id .opening]).map Body.id).Nodup
    rw [List.map_append, List.map_singleton, ← List.concat_eq_append]
    -- a body was let in before, and this task was not
    refine hs.nodup.concat fun hid => ?_
    obtain ⟨body, hbody, hsame⟩ := List.mem_map.mp hid
    have hadmitted := hs.admitted body hbody
    rw [hsame] at hadmitted
    exact hnew hadmitted
  admitted := by
    intro body hmem
    rcases List.mem_append.mp hmem with hbefore | hnow
    · exact List.mem_append_left _ (hs.admitted body hbefore)
    · rw [List.mem_singleton.mp hnow]
      exact List.mem_append_right _ (.head _)
  stage := by
    intro body hmem t' ht'
    rcases List.mem_append.mp hmem with hbefore | hnow
    · exact hs.stage body hbefore t' ht'
    · obtain rfl := List.mem_singleton.mp hnow
      have hsame : some t' = some t := ht'.symm.trans hknown
      cases hsame
      exact .inr hstate
  atWork := by
    intro id' hmem
    show ∃ t, s.board.get? id' = some t ∧
      (t.isTerminal = true ∨ id' ∈ (s.bodies ++ [Body.mk id .opening]).map Body.id)
    rw [List.map_append, List.mem_append]
    rcases List.mem_append.mp hmem with hbefore | hnow
    · obtain ⟨t', ht', hstaff⟩ := hs.atWork id' hbefore
      exact ⟨t', ht', hstaff.imp_right .inl⟩
    · exact ⟨t, List.mem_singleton.mp hnow ▸ hknown, .inr (.inr hnow)⟩

/-- A body leaves whose task is done. -/
theorem Staffed.leaves (hs : Staffed s) {body : Body} {before after : List Body}
    (hbodies : s.bodies = before ++ body :: after) {free : Nat}
    (hdone : ∀ t, s.board.get? body.id = some t → t.isTerminal = true) :
    Staffed { s with board := { s.board with free := free }, bodies := before ++ after } := by
  have hsublist : (before ++ after).Sublist s.bodies := by
    rw [hbodies]
    exact (List.sublist_cons_self body after).append_left before
  refine ⟨(hsublist.map Body.id).nodup hs.nodup, fun other hmem => ?_, fun other hmem => ?_,
    fun id hmem => ?_⟩
  · exact hs.admitted other (hsublist.subset hmem)
  · exact hs.stage other (hsublist.subset hmem)
  · obtain ⟨t, ht, hterminal | hbody⟩ := hs.atWork id hmem
    · exact ⟨t, ht, .inl hterminal⟩
    · by_cases hid : id = body.id
      · exact ⟨t, ht, .inl (hdone t (hid ▸ ht))⟩
      · refine ⟨t, ht, .inr ?_⟩
        rw [hbodies] at hbody
        simpa [hid] using hbody

/-! ## What moves preserve -/

/-- Who was submitted, who was admitted and who is at work fit together. -/
structure Manned (s : Site) : Prop where
  marked : Marked s
  queued : Queued s
  staffed : Staffed s

theorem Queued.pass (hs : Queued s) {e : TaskEntry} {t : Task}
    (hknown : s.board.find? e.id = some e) (hnext : e.Next t)
    (hstate : e.id ∈ s.admitted ∨ t.state = .cancelled)
    (hboard : s'.board = (s.pass e t).board) (hpublished : s'.published = (s.pass e t).published)
    (hsubmitted : s'.submitted = s.submitted) (hadmitted : s'.admitted = s.admitted) :
    Queued s' := by
  obtain ⟨passed, hpassed⟩ := hs.inTurn
  have hrecords := records_of_pass hknown hnext hboard hpublished
  refine ⟨⟨passed, hpassed.of_eq hrecords hsubmitted hadmitted ?_⟩, fun {id t'} ht' hout => ?_⟩
  · rw [hboard]
    rfl
  · rw [hadmitted] at hout
    rw [hboard, show (s.pass e t).board.get? id = _ from Board.get?_pass hknown hnext id] at ht'
    split at ht'
    · rename_i hid
      cases ht'
      rw [hid, hnext.id] at hout
      exact .inr (hstate.resolve_left hout)
    · exact hs.outside ht' hout

theorem Move.queued (h : Move s s') (hs : Manned s) : Queued s' := by
  have hrecords := h.records
  obtain ⟨passed, hpassed⟩ := hs.queued.inTurn
  cases h with
  | @adds e hnew hsubmitted hpast =>
      refine ⟨⟨passed, hpassed.of_eq hrecords rfl rfl rfl⟩, fun {id t} ht hout => ?_⟩
      rw [show (s.add e).board.get? id = _ from Board.get?_add hnew id] at ht
      split at ht
      · cases ht
        exact .inl hpast.state_of_new
      · exact hs.queued.outside ht hout
  | @submits e hknown hsubmitted =>
      refine ⟨⟨passed, hpassed.submits hrecords rfl rfl rfl⟩, fun {id t} ht hout => ?_⟩
      exact hs.queued.outside ((Board.get?_submit hknown id).symm.trans ht) hout
  | cancels hknown hnext hstate =>
      exact hs.queued.pass hknown hnext (.inr hstate) rfl rfl rfl rfl
  | @admits id rest free hfree hwaiting hpending =>
      refine ⟨⟨_, hpassed.admits hwaiting⟩, fun {id' t} ht hout => ?_⟩
      have hbefore : id' ∉ s.admitted := fun hmem => hout (List.mem_append_left _ hmem)
      exact hs.queued.outside ht hbefore
  | @skips id rest hwaiting hpending =>
      refine ⟨⟨_, hpassed.skips hwaiting fun hout => ?_⟩, hs.queued.outside⟩
      have hmem : id ∈ s.submitted := by
        rw [hpassed.submitted, hwaiting]
        simp
      obtain ⟨t, ht⟩ := Board.known_of_wasSubmitted ((hs.marked.submitted id).mp hmem)
      obtain ⟨e, he, rfl⟩ := Board.get?_eq_some ht
      -- without a body a task can only be cancelled, so whoever waits no longer was
      refine ⟨e.task, ht, (hs.queued.outside ht hout).resolve_left fun hstate => ?_⟩
      rw [(Board.isPending_iff _ _).mpr ⟨e, he, hstate⟩] at hpending
      cases hpending
  | begins hbodies hknown hnext hstate =>
      have hadmitted := hs.staffed.admitted _ (hbodies ▸ List.mem_append_right _ (.head _))
      exact hs.queued.pass hknown hnext (.inl hadmitted) rfl rfl rfl rfl
  | ends hbody hstage hknown hnext hterminal =>
      exact hs.queued.pass hknown hnext (.inl (hs.staffed.admitted _ hbody)) rfl rfl rfl rfl
  | refuses | builds | leaves =>
      exact ⟨⟨passed, hpassed.of_eq hrecords rfl rfl rfl⟩, hs.queued.outside⟩

theorem Move.staffed (h : Move s s') (hs : Manned s) : Staffed s' := by
  have hrecords := h.records
  have hstaffed := hs.staffed
  cases h with
  | adds hnew hsubmitted hpast => exact hstaffed.adds hrecords hnew
  | @submits e hknown hsubmitted =>
      refine hstaffed.of_eq hrecords rfl rfl fun body hmem t ht => ?_
      exact hstaffed.stage body hmem t ((Board.get?_submit hknown body.id).symm.trans ht)
  | @cancels e t hknown hnext hstate =>
      refine hstaffed.of_eq hrecords rfl rfl fun body hmem t' ht' => ?_
      have hterminal : t.isTerminal = true := by
        rw [Task.isTerminal, hstate]
        rfl
      exact hstaffed.stage_of_pass hknown hnext hmem (fun _ => .inl hterminal) ht'
  | @admits id rest free hfree hwaiting hpending =>
      obtain ⟨e, he, hstate⟩ := (Board.isPending_iff _ _).mp hpending
      -- nobody is admitted twice, since nobody waits twice
      have hnew : id ∉ s.admitted := by
        obtain ⟨passed, hpassed⟩ := hs.queued.inTurn
        have honce := hs.marked.once
        rw [hpassed.submitted, hwaiting, List.nodup_middle, List.nodup_cons] at honce
        exact fun hmem => honce.1 (List.mem_append_left _ (hpassed.admitted.subset hmem))
      exact hstaffed.admits rest free hnew (Board.get?_of_find? he) hstate
  | begins hbodies hknown hnext hstate =>
      exact hstaffed.begins hrecords hbodies hknown hnext hstate
  | @builds id before after hbodies =>
      have hmap : (before ++ ⟨id, .running⟩ :: after).map Body.id = s.bodies.map Body.id := by
        simp [hbodies]
      refine hstaffed.of_eq hrecords hmap rfl fun body hmem t ht => ?_
      rcases List.mem_cons.mp (List.perm_middle.mem_iff.mp hmem) with rfl | hothers
      · exact hstaffed.stage ⟨id, .building⟩ (by simp [hbodies]) t ht
      · exact hstaffed.stage body (mem_of_others hbodies hothers) t ht
  | @ends e t stage hbody hstage hknown hnext hterminal =>
      refine hstaffed.of_eq hrecords rfl rfl fun body hmem t' ht' => ?_
      exact hstaffed.stage_of_pass hknown hnext hmem (fun _ => .inl hterminal) ht'
  | @leaves body before after hbodies hdone =>
      refine hstaffed.leaves hbodies fun t ht => ?_
      obtain ⟨e, he, rfl⟩ := Board.get?_eq_some ht
      -- the task is past the state in which its body would go on
      have hstage := hstaffed.stage body (by simp [hbodies]) e.task ht
      exact hstage.resolve_right (hdone e he)
  | refuses | skips => exact hstaffed.of_eq hrecords rfl rfl hstaffed.stage

theorem Move.manned (h : Move s s') (hs : Manned s) : Manned s' :=
  ⟨h.marked hs.marked, h.queued hs, h.staffed hs⟩

theorem manned_opening (maxConcurrent : Nat) (maxDepth : UInt32) (agentTypes : List String) :
    Manned (opening maxConcurrent maxDepth agentTypes) where
  marked := ⟨List.nodup_nil, List.nodup_nil, fun _ => ⟨fun h => (nomatch h), fun h => (nomatch h)⟩⟩
  queued := ⟨⟨[], rfl, .slnil, fun _ h => (nomatch h)⟩, fun h => (nomatch h)⟩
  staffed := ⟨List.nodup_nil, fun _ h => (nomatch h), fun _ h => (nomatch h),
    fun _ h => (nomatch h)⟩

/-! ## After any run -/

/-- Every task that runs has a body. -/
theorem Manned.mem_bodies (hs : Manned s) {id : TaskId} {t : Task}
    (ht : s.board.get? id = some t) (hrunning : t.state = .running) :
    id ∈ s.bodies.map Body.id := by
  have hadmitted : id ∈ s.admitted := by
    refine Classical.byContradiction fun hout => ?_
    rcases hs.queued.outside ht hout with hstate | hstate
    · rw [hrunning] at hstate
      cases hstate
    · rw [hrunning] at hstate
      cases hstate
  obtain ⟨t', ht', hterminal | hbody⟩ := hs.staffed.atWork id hadmitted
  · rw [ht] at ht'
    cases ht'
    rw [Task.isTerminal, hrunning] at hterminal
    cases hterminal
  · exact hbody

theorem Manned.runningCount_le (hs : Manned s) : s.board.runningCount ≤ s.bodies.length := by
  -- the tasks that run are different ones, and each has a body
  have hnodup : ((s.board.entries.filter fun e => e.state == .running).map TaskEntry.id).Nodup :=
    (List.filter_sublist.map TaskEntry.id).nodup hs.marked.entries
  have hsubset : ((s.board.entries.filter fun e => e.state == .running).map TaskEntry.id) ⊆
      s.bodies.map Body.id := by
    intro id hid
    obtain ⟨e, he, rfl⟩ := List.mem_map.mp hid
    obtain ⟨hmem, hrunning⟩ := List.mem_filter.mp he
    have hget : s.board.get? e.id = some e.task :=
      Board.get?_of_find? (Board.find?_of_mem hs.marked.entries hmem)
    exact hs.mem_bodies hget (eq_of_beq hrunning)
  have hle := hnodup.length_le_of_subset hsubset
  rw [List.length_map, List.length_map] at hle
  exact hle

/-- Once no body is left and nobody waits, every task that was submitted is done. -/
theorem Manned.isDone (hs : Manned s) (hbodies : s.bodies = []) (hwaiting : s.board.waiting = [])
    {id : TaskId} (hid : s.board.wasSubmitted id = true) :
    ∃ t, s.board.get? id = some t ∧ t.isTerminal = true := by
  obtain ⟨passed, hpassed⟩ := hs.queued.inTurn
  have hmem : id ∈ passed := by
    rw [← hs.marked.submitted, hpassed.submitted, hwaiting, List.append_nil] at hid
    exact hid
  by_cases hadmitted : id ∈ s.admitted
  · obtain ⟨t, ht, hterminal | hbody⟩ := hs.staffed.atWork id hadmitted
    · exact ⟨t, ht, hterminal⟩
    · rw [hbodies] at hbody
      cases hbody
  · obtain ⟨t, ht, hstate⟩ := hpassed.others id hmem hadmitted
    refine ⟨t, ht, ?_⟩
    rw [Task.isTerminal, hstate]
    rfl

/-- A task that nobody has submitted waits, or it was cancelled. -/
theorem Manned.pending_of_unsubmitted (hs : Manned s) {id : TaskId} {e : TaskEntry}
    (he : s.board.find? id = some e) (hunsubmitted : e.submitted = false)
    (hopen : e.state ≠ .cancelled) : e.state = .pending := by
  obtain ⟨passed, hpassed⟩ := hs.queued.inTurn
  have hout : id ∉ s.admitted := by
    intro hmem
    have hsubmitted : id ∈ s.submitted := by
      rw [hpassed.submitted]
      exact List.mem_append_left _ (hpassed.admitted.subset hmem)
    rw [hs.marked.submitted, Board.wasSubmitted, he, Option.any_some, hunsubmitted] at hsubmitted
    exact Bool.false_ne_true hsubmitted
  exact (hs.queued.outside (Board.get?_of_find? he) hout).resolve_right hopen

theorem Manned.nodup_admitted (hs : Manned s) : s.admitted.Nodup := by
  obtain ⟨passed, hpassed⟩ := hs.queued.inTurn
  have honce := hs.marked.once
  rw [hpassed.submitted] at honce
  have hpassedOnce : passed.Nodup :=
    (List.sublist_append_left passed s.board.waiting).nodup honce
  exact hpassed.admitted.nodup hpassedOnce

theorem Runs.manned {maxConcurrent : Nat} {maxDepth : UInt32} {agentTypes : List String}
    (h : Runs (opening maxConcurrent maxDepth agentTypes) s) : Manned s :=
  Runs.preserves (fun _ _ hmove hs => hmove.manned hs) h (settled_opening _ _ _)
    (manned_opening maxConcurrent maxDepth agentTypes)

theorem Runs.slots {maxConcurrent : Nat} {maxDepth : UInt32} {agentTypes : List String}
    (h : Runs (opening maxConcurrent maxDepth agentTypes) s) :
    s.board.free + s.bodies.length = max 1 maxConcurrent :=
  Runs.preserves (P := fun s => s.board.free + s.bodies.length = max 1 maxConcurrent)
    (fun _ _ hmove hs => hmove.slots.trans hs) h (settled_opening _ _ _) rfl

/-- **Admission in turn.** After any run every slot is free or held by the body of an admitted task,
and every task that runs has such a body. Nobody waits while a slot is free, so every task that was
submitted is done when no body is left. The queue is done with the first tasks that were submitted:
they were admitted in that order and once each, but for those who were cancelled before it was their
turn. -/
theorem admission_within_slots_in_turn {maxConcurrent : Nat} {maxDepth : UInt32}
    {agentTypes : List String} (h : Runs (opening maxConcurrent maxDepth agentTypes) s) :
    s.board.free + s.bodies.length = max 1 maxConcurrent ∧
      (∀ body ∈ s.bodies, body.id ∈ s.admitted) ∧
      (∀ id t, s.board.get? id = some t → t.state = .running → id ∈ s.bodies.map Body.id) ∧
      s.board.runningCount ≤ max 1 maxConcurrent ∧
      (0 < s.board.free → ∀ id ∈ s.board.waiting, s.board.isPending id = false) ∧
      (s.bodies = [] → ∀ id, s.board.wasSubmitted id = true →
        ∃ t, s.board.get? id = some t ∧ t.isTerminal = true) ∧
      (∀ id, id ∈ s.submitted ↔ s.board.wasSubmitted id = true) ∧
      (∃ passed, InTurn s passed) ∧ s.admitted.Nodup := by
  have hmanned := Runs.manned h
  have hslots := Runs.slots h
  have hgreedy : s.board.Greedy := Runs.greedy h (.inr rfl)
  refine ⟨hslots, hmanned.staffed.admitted, fun id t => hmanned.mem_bodies, ?_,
    fun hfree id hwaiting => ?_, fun hbodies id => ?_, hmanned.marked.submitted,
    hmanned.queued.inTurn, hmanned.nodup_admitted⟩
  · have hle := hmanned.runningCount_le
    omega
  · rw [hgreedy.resolve_left (Nat.ne_of_gt hfree)] at hwaiting
    cases hwaiting
  · rw [hbodies, List.length_nil] at hslots
    have hfree : s.board.free ≠ 0 := by
      omega
    exact hmanned.isDone hbodies (hgreedy.resolve_left hfree)

/-- Of three tasks for one slot the second one is cancelled while it waits. -/
theorem admission_within_slots_in_turn_past_cancelled :
    ∃ s passed, Runs (opening 1 2 ["general"]) s ∧
      s.submitted = [⟨"a"⟩, ⟨"b"⟩, ⟨"c"⟩] ∧ s.admitted = [⟨"a"⟩, ⟨"c"⟩] ∧
      s.bodies = [⟨⟨"c"⟩, .opening⟩] ∧ InTurn s passed ∧ s.admitted.Nodup ∧
      s.board.free + s.bodies.length = 1 := by
  have hcreated : Runs (opening 1 2 ["general"]) _ :=
    ((Relation.ReflTransGen.single
      (.creates (errand "look around") (named "a") default rfl)).tail
      (.creates (errand "count") (named "b") default rfl)).tail
      (.creates (errand "report") (named "c") default rfl)
  have hcancelled := hcreated.tail (.cancels _ ⟨"b"⟩ default)
  have hopened := hcancelled.tail (.opens default (alone rfl))
  have hfailed := hopened.tail (.fails "no such agent" default (alone rfl))
  obtain ⟨hslots, -, -, -, -, -, -, ⟨passed, hpassed⟩, honce⟩ :=
    admission_within_slots_in_turn hfailed
  exact ⟨_, passed, hfailed, rfl, rfl, rfl, hpassed, honce, hslots⟩

end Site

end AgentSessions
