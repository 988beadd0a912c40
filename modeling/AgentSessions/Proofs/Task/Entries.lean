import AgentSessions.Task.Board

/-!
# The entries of a board

A task on a board has gone through one of six series of states, and its record shows which
(`Task.Past`). It passes to its next state in one way (`TaskEntry.Next`), whoever asks for it, and
whoever asks for something that is not legal changes nothing (`Board.Changes`). The operations on a
board that change the state of a task are each reduced to that once.
-/

set_option autoImplicit false

namespace AgentSessions

/-! ## The past of a task -/

/-- The series of states that a task can go through, and the state that it is in at the end. -/
inductive TaskState.Path : List TaskState → TaskState → Prop where
  | created : Path [.pending] .pending
  | started : Path [.pending, .running] .running
  | dropped : Path [.pending, .cancelled] .cancelled
  | ended {state : TaskState} : state.isTerminal = true → Path [.pending, .running, state] state

/-- The states that a task has gone through, and the record that it has then. -/
structure Task.Past (states : List TaskState) (t : Task) : Prop where
  path : TaskState.Path states t.state
  startedAt : t.startedAt.isSome = true ↔ .running ∈ states
  finishedAt : t.finishedAt.isSome = true ↔ t.isTerminal = true
  result : t.result.isSome = true ↔ t.state = .completed
  error : t.error.isSome = true ↔ t.state = .failed ∨ t.state = .cancelled

namespace Board

/-- What a result leaves with a task that has no outcome yet. -/
structure Result.Closes (r : Result) (t t' : Task) : Prop where
  id : t'.id = t.id
  state : t'.state = t.state
  startedAt : t'.startedAt = t.startedAt
  finishedAt : t'.finishedAt = t.finishedAt
  result : t.result = none → (t'.result.isSome = true ↔ r.state = .completed)
  error : t.error = none →
    (t'.error.isSome = true ↔ r.state = .failed ∨ r.state = .cancelled)

theorem Result.closes (result : Result) (t : Task) : result.Closes t (result.apply t) := by
  cases result with
  | answered text =>
      refine ⟨rfl, rfl, rfl, rfl, fun _ => ?_, fun herror => ?_⟩
      · simp [Result.apply, Result.state]
      · simp [Result.apply, Result.state, herror]
  | cancelled | failed text =>
      refine ⟨rfl, rfl, rfl, rfl, fun hresult => ?_, fun _ => ?_⟩
      · simp [Result.apply, Result.state, withError, hresult]
      · simp [Result.apply, Result.state, withError]

theorem Result.isTerminal_state (result : Result) : result.state.isTerminal = true := by
  cases result <;> rfl

/-- What is done to the record of a task that passes to a state. To be cancelled is one way to
end. -/
inductive Applies : TaskState → (Task → Task) → Prop where
  | begin (now : Instant) : Applies .running fun t => { t with startedAt := some now }
  | finish (result : Result) : Applies result.state result.apply

theorem Applies.id {next : TaskState} {apply : Task → Task} (h : Applies next apply) (t : Task) :
    (apply t).id = t.id := by
  cases h with
  | begin now => rfl
  | finish result => exact (result.closes t).id

theorem Applies.state {next : TaskState} {apply : Task → Task} (h : Applies next apply) (t : Task) :
    (apply t).state = t.state := by
  cases h with
  | begin now => rfl
  | finish result => exact (result.closes t).state

end Board

theorem TaskState.canBecome_of_isTerminal {state : TaskState} (h : state.isTerminal = true)
    (next : TaskState) : state.canBecome next = false := by
  cases state with
  | pending | running => cases h
  | completed | failed | cancelled => rfl

theorem TaskState.canBecome_cancelled (state : TaskState) :
    state.canBecome .cancelled = !state.isTerminal := by
  cases state <;> rfl

theorem TaskState.Path.passes {states : List TaskState} {state next : TaskState}
    (h : Path states state) (hlegal : state.canBecome next = true) :
    Path (states ++ [next]) next := by
  cases h with
  | created =>
      cases next with
      | running => exact .started
      | cancelled => exact .dropped
      | pending | completed | failed => cases hlegal
  | started =>
      cases next with
      | completed | failed | cancelled => exact .ended rfl
      | pending | running => cases hlegal
  | dropped => cases hlegal
  | ended hterminal =>
      rw [canBecome_of_isTerminal hterminal] at hlegal
      cases hlegal

/-- A task that is not done has neither an end nor an outcome yet. -/
theorem Task.Past.blank {states : List TaskState} {t : Task} (h : t.Past states)
    (hopen : t.isTerminal = false) : t.finishedAt = none ∧ t.result = none ∧ t.error = none := by
  have hstate : t.state = .pending ∨ t.state = .running := by
    unfold Task.isTerminal at hopen
    cases hstate : t.state with
    | pending => exact .inl rfl
    | running => exact .inr rfl
    | completed | failed | cancelled =>
        rw [hstate] at hopen
        cases hopen
  refine ⟨?_, ?_, ?_⟩
  · rw [← Option.not_isSome_iff_eq_none, h.finishedAt, hopen]
    exact Bool.false_ne_true
  · rw [← Option.not_isSome_iff_eq_none, h.result]
    rcases hstate with hstate | hstate <;> simp [hstate]
  · rw [← Option.not_isSome_iff_eq_none, h.error]
    rcases hstate with hstate | hstate <;> simp [hstate]

/-- A task that passes to its next state has one state more behind it. -/
theorem Task.Past.passes {states : List TaskState} {t : Task} (h : t.Past states)
    {next : TaskState} {apply : Task → Task} (happly : Board.Applies next apply)
    (hlegal : t.state.canBecome next = true) (now : Instant) :
    (apply (Board.enter t next now)).Past (states ++ [next]) := by
  have hopen : t.isTerminal = false := by
    refine Bool.eq_false_iff.mpr fun hterminal => ?_
    rw [TaskState.canBecome_of_isTerminal hterminal] at hlegal
    cases hlegal
  -- a task that goes on has not ended, so it has nothing filled in yet
  obtain ⟨hfinishedAt, hresult, herror⟩ := h.blank hopen
  have hpath := h.path.passes hlegal
  cases happly with
  | begin now' =>
      refine ⟨hpath, ⟨fun _ => by simp, fun _ => rfl⟩, ?_, ?_, ?_⟩
      · simp [Board.enter, Task.isTerminal, TaskState.isTerminal, hfinishedAt]
      · simp [Board.enter, hresult]
      · simp [Board.enter, herror]
  | finish result =>
      have hterminal := result.isTerminal_state
      have hcloses := result.closes (Board.enter t result.state now)
      have hstate : (result.apply (Board.enter t result.state now)).state = result.state :=
        hcloses.state
      refine ⟨hstate.symm ▸ hpath, ?_, ?_, ?_, ?_⟩
      · -- a state that ends a task leaves it started or not, as it was
        have hnext : result.state ≠ .running := by
          intro hrunning
          rw [hrunning] at hterminal
          cases hterminal
        rw [hcloses.startedAt, List.mem_append, List.mem_singleton]
        exact h.startedAt.trans ⟨.inl, fun hmem => hmem.resolve_right hnext.symm⟩
      · rw [hcloses.finishedAt, Task.isTerminal, hstate, hterminal]
        simp [Board.enter, hterminal]
      · rw [hstate]
        exact hcloses.result hresult
      · rw [hstate]
        exact hcloses.error herror

/-- A task that has gone through one state alone waits. -/
theorem Task.Past.state_of_new {t : Task} (h : t.Past [.pending]) : t.state = .pending := by
  have hpath := h.path
  generalize hstates : [TaskState.pending] = states at hpath
  generalize t.state = state at hpath
  cases hpath with
  | created => rfl
  | started | dropped | ended => cases hstates

theorem Task.past_new (r : TaskRequest) (fresh : Board.Fresh) (now : Instant) :
    (Board.newTask r fresh now).Past [.pending] where
  path := .created
  startedAt := by simp [Board.newTask]
  finishedAt := by simp [Board.newTask, Task.isTerminal, TaskState.isTerminal]
  result := by simp [Board.newTask]
  error := by simp [Board.newTask]

/-- The task of the entry can pass on, and `t` is its record then. -/
structure TaskEntry.Next (e : TaskEntry) (t : Task) : Prop where
  id : t.id = e.id
  legal : e.state.canBecome t.state = true
  past : ∀ states, e.task.Past states → t.Past (states ++ [t.state])

theorem TaskEntry.Next.not_isTerminal {e : TaskEntry} {t : Task} (h : e.Next t) :
    e.task.isTerminal = false := by
  refine Bool.eq_false_iff.mpr fun hterminal => ?_
  have hillegal : e.state.canBecome t.state = false :=
    TaskState.canBecome_of_isTerminal hterminal t.state
  exact Bool.false_ne_true (hillegal.symm.trans h.legal)

namespace Board

/-! ## Looking up entries -/

theorem id_of_find? {b : Board} {id : TaskId} {e : TaskEntry} (h : b.find? id = some e) :
    e.id = id := by
  unfold find? at h
  have hid := List.find?_some h
  exact eq_of_beq hid

theorem mem_of_find? {b : Board} {id : TaskId} {e : TaskEntry} (h : b.find? id = some e) :
    e ∈ b.entries :=
  List.mem_of_find?_eq_some h

theorem get?_eq_some {b : Board} {id : TaskId} {t : Task} (h : b.get? id = some t) :
    ∃ e, b.find? id = some e ∧ e.task = t := by
  unfold get? at h
  exact Option.map_eq_some_iff.mp h

theorem get?_of_find? {b : Board} {id : TaskId} {e : TaskEntry} (h : b.find? id = some e) :
    b.get? id = some e.task := by
  unfold get?
  rw [h]
  rfl

theorem id_replaced (e e' : TaskEntry) : (if e'.id = e.id then e else e').id = e'.id := by
  split
  · rename_i h
    exact h.symm
  · rfl

/-- An entry in the place of the one with its identifier. -/
theorem find?_replace {b : Board} {e old : TaskEntry} (hold : b.find? e.id = some old)
    (id : TaskId) : (b.replace e).find? id = if id = e.id then some e else b.find? id := by
  show (b.entries.map _).find? _ = _
  rw [List.find?_map]
  have hsame : ((fun e' : TaskEntry => e'.id == id) ∘ fun e' => if e'.id = e.id then e else e') =
      fun e' => e'.id == id := by
    funext e'
    exact congrArg (· == id) (id_replaced e e')
  rw [hsame]
  show (b.find? id).map _ = _
  by_cases hid : id = e.id
  · rw [if_pos hid, hid, hold, Option.map_some, if_pos (id_of_find? hold)]
  · rw [if_neg hid]
    cases hfind : b.find? id with
    | none => rfl
    | some e' =>
        rw [Option.map_some, if_neg fun h => hid ((id_of_find? hfind).symm.trans h)]

theorem map_id_replace (b : Board) (e : TaskEntry) :
    (b.replace e).entries.map TaskEntry.id = b.entries.map TaskEntry.id := by
  show (b.entries.map _).map _ = _
  rw [List.map_map]
  exact List.map_congr_left fun e' _ => id_replaced e e'

/-! ## Changes of state -/

/-- The board when the task of the entry has passed on. -/
def pass (b : Board) (e : TaskEntry) (t : Task) : Board :=
  (b.replace { e with task := t }).announce t

theorem find?_pass {b : Board} {e : TaskEntry} {t : Task} (hknown : b.find? e.id = some e)
    (hnext : e.Next t) (id : TaskId) :
    (b.pass e t).find? id = if id = t.id then some { e with task := t } else b.find? id := by
  have hold : b.find? ({ e with task := t } : TaskEntry).id = some e := by
    show b.find? t.id = some e
    rw [hnext.id, hknown]
  exact find?_replace hold id

theorem get?_pass {b : Board} {e : TaskEntry} {t : Task} (hknown : b.find? e.id = some e)
    (hnext : e.Next t) (id : TaskId) :
    (b.pass e t).get? id = if id = t.id then some t else b.get? id := by
  unfold get?
  rw [find?_pass hknown hnext, apply_ite (Option.map TaskEntry.task)]
  rfl

/-- What comes of the wish that a task passes to another state. -/
inductive Changes (b : Board) (id : TaskId) (next : TaskState) : Bool × Board → Prop where
  | refused : (∀ e, b.find? id = some e → e.state.canBecome next = false) →
      Changes b id next (false, b)
  | made {e : TaskEntry} {t : Task} : b.find? id = some e → e.Next t → t.state = next →
      Changes b id next (true, b.pass e t)

theorem changes_change (b : Board) (id : TaskId) {next : TaskState} {apply : Task → Task}
    (happly : Applies next apply) (now : Instant) :
    b.Changes id next (b.change id next apply now) := by
  unfold change
  cases hfind : b.find? id with
  | none =>
      refine .refused fun e he => ?_
      rw [hfind] at he
      cases he
  | some e =>
      dsimp only
      split
      · rename_i hlegal
        have hstate : (apply (enter e.task next now)).state = next := happly.state _
        refine .made hfind ⟨happly.id _, hstate.symm ▸ hlegal, fun states h => ?_⟩ hstate
        rw [hstate]
        exact h.passes happly hlegal now
      · rename_i hillegal
        refine .refused fun e' he' => ?_
        rw [hfind] at he'
        cases he'
        exact Bool.eq_false_iff.mpr hillegal

/-- What comes of a cancellation. -/
inductive Cancels (b : Board) (id : TaskId) : Option Token × Board → Prop where
  | refused : (∀ e, b.find? id = some e → e.state.isTerminal = true) → Cancels b id (none, b)
  | done {e : TaskEntry} {t : Task} : b.find? id = some e → e.Next t → t.state = .cancelled →
      Cancels b id (some e.token, b.pass e t)

theorem cancels_cancel (b : Board) (id : TaskId) (now : Instant) :
    b.Cancels id (b.cancel id now) := by
  have hchanges : b.Changes id .cancelled (b.change id .cancelled (withError cancelledText) now) :=
    b.changes_change id (.finish .cancelled) now
  unfold cancel
  cases hfind : b.find? id with
  | none =>
      refine .refused fun e he => ?_
      rw [hfind] at he
      cases he
  | some e =>
      dsimp only
      generalize b.change id .cancelled (withError cancelledText) now = result at hchanges
      cases hchanges with
      | refused hrefused =>
          refine .refused fun e' he' => ?_
          have hillegal := hrefused e' he'
          rw [TaskState.canBecome_cancelled] at hillegal
          simpa using hillegal
      | made hknown hnext hstate =>
          rw [hfind] at hknown
          cases hknown
          exact .done hfind hnext hstate

/-- A task that is known and not done is cancelled, and no other one. -/
theorem isSome_cancel_iff (b : Board) (id : TaskId) (now : Instant) :
    (b.cancel id now).1.isSome = true ↔ ∃ t, b.get? id = some t ∧ t.isTerminal = false := by
  have hcancels := b.cancels_cancel id now
  generalize b.cancel id now = result at hcancels
  cases hcancels with
  | refused hterminal =>
      refine ⟨fun h => (Bool.false_ne_true h).elim, ?_⟩
      rintro ⟨t, ht, hopen⟩
      obtain ⟨e, he, rfl⟩ := get?_eq_some ht
      have hdone := hterminal e he
      rw [show e.task.isTerminal = e.state.isTerminal from rfl, hdone] at hopen
      cases hopen
  | @done e t hknown hnext hstate =>
      refine ⟨fun _ => ⟨e.task, get?_of_find? hknown, ?_⟩, fun _ => rfl⟩
      exact hnext.not_isTerminal

/-- What comes of the begin of a body. -/
inductive Begins (b : Board) (id : TaskId) : Option Task × Board → Prop where
  | refused : (∀ e, b.find? id = some e → e.state ≠ .pending) → Begins b id (none, b)
  | done {e : TaskEntry} {t : Task} : b.find? id = some e → e.Next t → t.state = .running →
      Begins b id (some t, b.pass e t)

theorem begins_begin (b : Board) (id : TaskId) (now : Instant) :
    b.Begins id (b.begin id now) := by
  have hchanges := b.changes_change id (.begin now) now
  unfold begin
  generalize b.change id .running (fun t => { t with startedAt := some now }) now = result
    at hchanges
  cases hchanges with
  | refused hrefused =>
      refine .refused fun e he hpending => ?_
      have hillegal := hrefused e he
      rw [hpending] at hillegal
      cases hillegal
  | @made e t hknown hnext hstate =>
      obtain rfl := id_of_find? hknown
      have hget : (b.pass e t).get? e.id = some t := by
        rw [get?_pass hknown hnext, if_pos hnext.id.symm]
      dsimp only
      rw [hget]
      exact .done hknown hnext hstate

/-- What comes of the end of an engine. -/
inductive Finishes (b : Board) (id : TaskId) (result : Result) : Board → Prop where
  | refused : (∀ e, b.find? id = some e → e.state ≠ .running) → Finishes b id result b
  | done {e : TaskEntry} {t : Task} : b.find? id = some e → e.Next t → t.state = result.state →
      Finishes b id result (b.pass e t)

theorem finishes_finish (b : Board) (id : TaskId) (result : Result) (now : Instant) :
    b.Finishes id result (b.finish id result now) := by
  have hchanges := b.changes_change id (.finish result) now
  unfold finish
  generalize b.change id result.state result.apply now = changed at hchanges
  cases hchanges with
  | refused hrefused =>
      refine .refused fun e he hrunning => ?_
      have hillegal := hrefused e he
      rw [hrunning] at hillegal
      cases result <;> cases hillegal
  | made hknown hnext hstate => exact .done hknown hnext hstate

/-! ## Who waits -/

theorem isPending_iff (b : Board) (id : TaskId) :
    b.isPending id = true ↔ ∃ e, b.find? id = some e ∧ e.state = .pending := by
  unfold isPending
  cases b.find? id with
  | none => simp
  | some e => simp

/-- Whoever still waits after a cancellation did so before, and it was another task. -/
theorem isPending_of_cancel {b : Board} {id id' : TaskId} {now : Instant}
    (h : (b.cancel id now).2.isPending id' = true) : b.isPending id' = true ∧ id' ≠ id := by
  rw [isPending_iff] at h ⊢
  obtain ⟨e', he', hpending⟩ := h
  have hcancels := b.cancels_cancel id now
  generalize b.cancel id now = result at hcancels he'
  cases hcancels with
  | refused hterminal =>
      refine ⟨⟨e', he', hpending⟩, ?_⟩
      rintro rfl
      have hdone := hterminal e' he'
      rw [hpending] at hdone
      cases hdone
  | @done e t hknown hnext hstate =>
      obtain rfl := id_of_find? hknown
      rw [find?_pass hknown hnext, hnext.id] at he'
      split at he'
      · cases he'
        rw [show TaskEntry.state _ = t.state from rfl, hstate] at hpending
        cases hpending
      · rename_i hother
        exact ⟨⟨e', he', hpending⟩, hother⟩

theorem isPending_of_cancelAll {now : Instant} {ids : List TaskId} {b : Board} {id : TaskId}
    (h : (b.cancelAll now ids).2.isPending id = true) : b.isPending id = true ∧ id ∉ ids := by
  induction ids generalizing b with
  | nil => exact ⟨h, List.not_mem_nil⟩
  | cons id' rest ih =>
      obtain ⟨hcancelled, hrest⟩ := ih h
      obtain ⟨hpending, hother⟩ := isPending_of_cancel hcancelled
      exact ⟨hpending, List.not_mem_cons_of_ne_of_not_mem hother hrest⟩

/-- Nobody waits any longer once every task was cancelled. -/
theorem isPending_shutdown (b : Board) (now : Instant) (id : TaskId) :
    (b.cancelAll now (b.entries.map TaskEntry.id)).2.isPending id = false := by
  refine Bool.eq_false_iff.mpr fun hafter => ?_
  obtain ⟨hpending, hother⟩ := isPending_of_cancelAll hafter
  obtain ⟨e, he, -⟩ := (isPending_iff b id).mp hpending
  refine hother (List.mem_map.mpr ⟨e, mem_of_find? he, id_of_find? he⟩)

/-! ## Requests -/

/-- The board when a task is submitted and waits behind the others. -/
def submit (b : Board) (e : TaskEntry) : Board :=
  { b.replace { e with submitted := true } with waiting := b.waiting ++ [e.id] }

theorem find?_submit {b : Board} {e : TaskEntry} (hknown : b.find? e.id = some e) (id : TaskId) :
    (b.submit e).find? id =
      if id = e.id then some { e with submitted := true } else b.find? id :=
  find?_replace (e := { e with submitted := true }) hknown id

/-- Whether a task was submitted is not part of its record. -/
theorem get?_submit {b : Board} {e : TaskEntry} (hknown : b.find? e.id = some e) (id : TaskId) :
    (b.submit e).get? id = b.get? id := by
  unfold get?
  rw [find?_submit hknown]
  by_cases hid : id = e.id
  · rw [if_pos hid, hid, hknown]
    rfl
  · rw [if_neg hid]

/-- What comes of the wish that a task starts. -/
inductive Starts (b : Board) (id : TaskId) : Except TaskError Task × Board → Prop where
  | refused (error : TaskError) : Starts b id (.error error, b)
  | done {e : TaskEntry} : b.find? id = some e → e.submitted = false → e.state ≠ .cancelled →
      Starts b id (.ok e.task, (b.submit e).pump)

theorem starts_start (b : Board) (id : TaskId) : b.Starts id (b.start id) := by
  unfold start
  cases hfind : b.find? id with
  | none => exact .refused _
  | some e =>
      dsimp only
      split
      · exact .refused _
      · rename_i hstate
        split
        · exact .refused _
        · rename_i hsubmitted
          have hdone := Starts.done hfind (Bool.eq_false_iff.mpr hsubmitted) hstate
          rw [← id_of_find? hfind] at hdone ⊢
          exact hdone

/-- The board with another entry, whose task is new. -/
def add (b : Board) (e : TaskEntry) : Board :=
  ({ b with entries := b.entries ++ [e] } : Board).announce e.task

/-- A new entry is found by its own identifier alone. -/
theorem find?_add {b : Board} {e : TaskEntry} (hnew : b.find? e.id = none) (id : TaskId) :
    (b.add e).find? id =
      if id = e.id then some e else b.find? id := by
  show (b.entries ++ [e]).find? (fun e' => e'.id == id) = _
  rw [List.find?_append]
  by_cases hid : id = e.id
  · have hbefore : b.entries.find? (fun e' => e'.id == id) = none := by
      rw [hid]
      exact hnew
    rw [if_pos hid, hbefore, hid]
    simp
  · have hnot : ¬e.id = id := fun h => hid h.symm
    rw [if_neg hid]
    simp [hnot, find?]

theorem get?_add {b : Board} {e : TaskEntry} (hnew : b.find? e.id = none) (id : TaskId) :
    (b.add e).get? id = if id = e.id then some e.task else b.get? id := by
  unfold get?
  rw [find?_add hnew, apply_ite (Option.map TaskEntry.task)]
  rfl

/-- What comes of a request. -/
inductive Creates (b : Board) (id : TaskId) (autoStart : Bool) :
    Except TaskError Task × Board → Prop where
  | refused (error : TaskError) : Creates b id autoStart (.error error, b)
  | done {e : TaskEntry} : e.id = id → e.submitted = false → e.task.Past [.pending] →
      Creates b id autoStart
        (if autoStart then (b.add e).start id else (.ok e.task, b.add e))

theorem creates_create (b : Board) (r : TaskRequest) (fresh : Fresh) (now : Instant) :
    b.Creates fresh.task r.autoStart (b.create r fresh now) := by
  unfold create
  cases b.refusal? r with
  | some error => exact .refused error
  | none =>
      exact Creates.done (e := ⟨newTask r fresh now, false, fresh.token⟩) rfl rfl
        (Task.past_new r fresh now)

end Board

end AgentSessions
