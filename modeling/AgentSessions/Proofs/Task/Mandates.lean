import AgentSessions.Proofs.Task.Entries

/-!
# Mandates

What is settled of a task when it is created stays for good: its agent type, who delegated it, the
session of its sub-agent and how deep that is nested. Whatever is asked of a board, and whatever
becomes of its tasks, the mandates on it stay (`Board.Keeps`); a request that is not refused adds
one, and one that is refused changes nothing (`Board.create_cases`).
-/

set_option autoImplicit false

namespace AgentSessions

/-- What is settled of a task when it is created. -/
structure Mandate where
  agentType : String
  parent : Option SessionId
  session : SessionId
  depth : UInt32
  deriving DecidableEq, Repr

/-- The mandate of a task. -/
def Task.mandate (t : Task) : Mandate :=
  ⟨t.agentType, t.parentSessionId, t.childSessionId, t.depth⟩

/-- The mandate that a request asks for. -/
def TaskRequest.mandate (r : TaskRequest) (fresh : Board.Fresh) : Mandate :=
  ⟨r.agentType, r.parentSession, fresh.session, r.depth⟩

namespace Board

/-- The mandate of a task on the board. -/
def mandate? (b : Board) (id : TaskId) : Option Mandate :=
  (b.get? id).map Task.mandate

theorem mandate?_of_find? {b : Board} {id : TaskId} {e : TaskEntry} (h : b.find? id = some e) :
    b.mandate? id = some e.task.mandate := by
  rw [mandate?, get?_of_find? h, Option.map_some]

theorem mandate?_eq_none {b : Board} {id : TaskId} (h : b.find? id = none) :
    b.mandate? id = none := by
  rw [mandate?, get?, h, Option.map_none, Option.map_none]

theorem find?_eq_none_of_mandate? {b : Board} {id : TaskId} (h : b.mandate? id = none) :
    b.find? id = none := by
  simpa [mandate?, get?] using h

theorem Applies.mandate {next : TaskState} {apply : Task → Task} (h : Applies next apply)
    (t : Task) : (apply t).mandate = t.mandate := by
  cases h with
  | begin now => rfl
  | finish result => cases result <;> rfl

/-! ## What stays -/

/-- The mandates on the board and what may be asked for are the same. -/
structure Keeps (b b' : Board) : Prop where
  maxDepth : b'.maxDepth = b.maxDepth
  agentTypes : b'.agentTypes = b.agentTypes
  mandate? : ∀ id, b'.mandate? id = b.mandate? id

theorem Keeps.refl (b : Board) : b.Keeps b :=
  ⟨rfl, rfl, fun _ => rfl⟩

theorem Keeps.trans {b b' b'' : Board} (h : b.Keeps b') (h' : b'.Keeps b'') : b.Keeps b'' :=
  ⟨h'.maxDepth.trans h.maxDepth, h'.agentTypes.trans h.agentTypes,
    fun id => (h'.mandate? id).trans (h.mandate? id)⟩

/-- Mandates are found with the entries alone. -/
theorem keeps_of_entries {b b' : Board} (hdepth : b'.maxDepth = b.maxDepth)
    (htypes : b'.agentTypes = b.agentTypes) (hentries : b'.entries = b.entries) : b.Keeps b' := by
  refine ⟨hdepth, htypes, fun id => ?_⟩
  unfold Board.mandate? get? find?
  rw [hentries]

/-- An entry in the place of one whose task has the same mandate. -/
theorem keeps_replace {b : Board} {e old : TaskEntry} (hold : b.find? e.id = some old)
    (hsame : e.task.mandate = old.task.mandate) : b.Keeps (b.replace e) := by
  refine ⟨rfl, rfl, fun id => ?_⟩
  by_cases hid : id = e.id
  · rw [mandate?_of_find? ((find?_replace hold id).trans (if_pos hid)), hsame, hid,
      mandate?_of_find? hold]
  · have hother := (find?_replace hold id).trans (if_neg hid)
    unfold Board.mandate? get?
    rw [hother]

theorem keeps_change (b : Board) (id : TaskId) {next : TaskState} {apply : Task → Task}
    (happly : Applies next apply) (now : Instant) :
    b.Keeps (b.change id next apply now).2 := by
  unfold change
  cases hfind : b.find? id with
  | none => exact .refl b
  | some e =>
      dsimp only
      split
      · have hid : (apply (enter e.task next now)).id = e.id := happly.id _
        have hsame : (apply (enter e.task next now)).mandate = e.task.mandate := happly.mandate _
        have hold : b.find? (apply (enter e.task next now)).id = some e := by
          rw [hid, id_of_find? hfind, hfind]
        exact (keeps_replace (e := { e with task := apply (enter e.task next now) }) hold
          hsame).trans (keeps_of_entries rfl rfl rfl)
      · exact .refl b

theorem keeps_cancel (b : Board) (id : TaskId) (now : Instant) : b.Keeps (b.cancel id now).2 := by
  have hchange := b.keeps_change id (.finish .cancelled) now
  unfold cancel
  split
  · exact .refl b
  · split
    · rename_i b' hchanged
      rw [show b' = (b.change id .cancelled (withError cancelledText) now).2 by rw [hchanged]]
      exact hchange
    · rename_i b' hchanged
      rw [show b' = (b.change id .cancelled (withError cancelledText) now).2 by rw [hchanged]]
      exact hchange

theorem keeps_cancelAll (now : Instant) (ids : List TaskId) (b : Board) :
    b.Keeps (b.cancelAll now ids).2 := by
  induction ids generalizing b with
  | nil => exact .refl b
  | cons id rest ih => exact (b.keeps_cancel id now).trans (ih _)

theorem keeps_shutdown (b : Board) (now : Instant) : b.Keeps (b.shutdown now).2 :=
  (b.keeps_cancelAll now _).trans (keeps_of_entries rfl rfl rfl)

/-- Whoever is admitted, the entries stay. -/
theorem keeps_fill (b : Board) (free : Nat) (waiting : List TaskId) :
    b.Keeps (b.fill free waiting) := by
  fun_induction fill b free waiting with
  | case1 b waiting | case2 b free => exact keeps_of_entries rfl rfl rfl
  | case3 b free id rest hpending ih =>
      have hadmitted : b.Keeps { b with admitted := b.admitted ++ [id] } :=
        keeps_of_entries rfl rfl rfl
      exact hadmitted.trans ih
  | case4 b free id rest hpending ih => exact ih

theorem keeps_pump (b : Board) : b.Keeps b.pump :=
  b.keeps_fill b.free b.waiting

theorem keeps_vacate (b : Board) : b.Keeps b.vacate := by
  have hfreed : b.Keeps { b with free := b.free + 1 } := keeps_of_entries rfl rfl rfl
  exact hfreed.trans (keeps_pump _)

theorem keeps_begin (b : Board) (id : TaskId) (now : Instant) : b.Keeps (b.begin id now).2 := by
  have hchange := b.keeps_change id (.begin now) now
  unfold begin
  split
  · rename_i b' hchanged
    rw [show b' = (b.change id .running (fun t => { t with startedAt := some now }) now).2 by
      rw [hchanged]]
    exact hchange
  · rename_i b' hchanged
    rw [show b' = (b.change id .running (fun t => { t with startedAt := some now }) now).2 by
      rw [hchanged]]
    exact hchange

theorem keeps_finish (b : Board) (id : TaskId) (result : Result) (now : Instant) :
    b.Keeps (b.finish id result now) :=
  b.keeps_change id (.finish result) now

theorem keeps_start (b : Board) (id : TaskId) : b.Keeps (b.start id).2 := by
  have hstarts := b.starts_start id
  generalize b.start id = result at hstarts
  cases hstarts with
  | refused error => exact .refl b
  | @done e hfind hsubmitted =>
      have hold : b.find? e.id = some e := by
        rw [id_of_find? hfind, hfind]
      have hsubmits : b.Keeps (b.submit e) :=
        (keeps_replace (e := { e with submitted := true }) hold rfl).trans
          (keeps_of_entries rfl rfl rfl)
      exact hsubmits.trans (keeps_pump _)

/-! ## What a request adds -/

/-- A task that is new has got a mandate. -/
structure Adds (b : Board) (id : TaskId) (m : Mandate) (b' : Board) : Prop where
  maxDepth : b'.maxDepth = b.maxDepth
  agentTypes : b'.agentTypes = b.agentTypes
  mandate? : ∀ id', b'.mandate? id' = if id' = id then some m else b.mandate? id'

/-- A request is refused and changes nothing, or it is granted and adds one task, which is submitted
if that is wanted. -/
theorem create_cases {b : Board} (r : TaskRequest) {fresh : Fresh}
    (hnew : b.find? fresh.task = none) (now : Instant) :
    (∃ e, b.refusal? r = some e ∧ b.create r fresh now = (.error e, b)) ∨
      b.refusal? r = none ∧ (∃ t, (b.create r fresh now).1 = .ok t ∧ t.mandate = r.mandate fresh) ∧
        b.Adds fresh.task (r.mandate fresh) (b.create r fresh now).2 := by
  unfold create
  cases hrefusal : b.refusal? r with
  | some e => exact .inl ⟨e, rfl, rfl⟩
  | none =>
      refine .inr ⟨rfl, ?_⟩
      have hfind := find?_add (e := ⟨newTask r fresh now, false, fresh.token⟩) hnew
      have hadds : b.Adds fresh.task (r.mandate fresh)
          (b.add ⟨newTask r fresh now, false, fresh.token⟩) := by
        refine ⟨rfl, rfl, fun id' => ?_⟩
        by_cases hid : id' = fresh.task
        · rw [if_pos hid, mandate?_of_find? ((hfind id').trans (if_pos hid))]
          rfl
        · rw [if_neg hid]
          unfold Board.mandate? get?
          rw [(hfind id').trans (if_neg hid)]
      dsimp only
      cases r.autoStart with
      | false => exact ⟨⟨_, rfl, rfl⟩, hadds⟩
      | true =>
          have hstart := (b.add ⟨newTask r fresh now, false, fresh.token⟩).keeps_start fresh.task
          refine ⟨⟨newTask r fresh now, ?_, rfl⟩, hstart.maxDepth, hstart.agentTypes, fun id' =>
            (hstart.mandate? id').trans (hadds.mandate? id')⟩
          -- nobody has cancelled or submitted a task that is new
          show ((b.add ⟨newTask r fresh now, false, fresh.token⟩).start fresh.task).1 = _
          unfold start
          rw [(hfind fresh.task).trans (if_pos rfl)]
          rfl

/-- What a request has to ask for if it is not refused. -/
theorem refusal?_eq_none {b : Board} {r : TaskRequest} (h : b.refusal? r = none) :
    r.depth ≤ b.maxDepth ∧ r.agentType ∈ b.agentTypes := by
  unfold refusal? at h
  split at h
  · cases h
  · split at h
    · cases h
    · split at h
      · cases h
      · rename_i hdepth htype
        exact ⟨UInt32.not_lt.mp hdepth, by simpa using htype⟩

end Board

end AgentSessions
