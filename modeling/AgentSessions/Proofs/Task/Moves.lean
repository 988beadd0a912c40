import AgentSessions.Proofs.Task.Site

/-!
# Steps at a site as series of moves

One step at a site can do several things on the board: whoever gives a slot back also admits those
who wait, and a shutdown cancels every task. A `Site.Move` is one such thing, and every step is a
series of moves (`Step.moves`). So whatever each move preserves is preserved by every run
(`Runs.preserves`). To the records of tasks a move does nothing, or one task enters or passes on
(`Move.records`).
-/

set_option autoImplicit false

namespace AgentSessions

namespace Site

variable {s s' : Site}

/-! ## Moves -/

/-- A task is new. -/
def add (s : Site) (e : TaskEntry) : Site :=
  { s with
    board := { s.board with entries := s.board.entries ++ [e] }
    published := s.published ++ [⟨e.task.parentSessionId, e.id, e.state⟩] }

/-- A task passes on. -/
def pass (s : Site) (e : TaskEntry) (t : Task) : Site :=
  { s with
    board := s.board.replace { e with task := t }
    published := s.published ++ [⟨t.parentSessionId, t.id, t.state⟩] }

/-- The first task that waits gets a slot and leaves so many. -/
def letIn (s : Site) (id : TaskId) (rest : List TaskId) (free : Nat) : Site :=
  { s with
    board := { s.board with free := free, waiting := rest }
    admitted := s.admitted ++ [id]
    bodies := s.bodies ++ [⟨id, .opening⟩] }

/-- One thing that happens at the site. -/
inductive Move : Site → Site → Prop where
  | adds {s : Site} {e : TaskEntry} : s.board.find? e.id = none → e.submitted = false →
      e.task.Past [.pending] → Move s (s.add e)
  | submits {s : Site} {e : TaskEntry} : s.board.find? e.id = some e → e.submitted = false →
      Move s { s with board := s.board.submit e, submitted := s.submitted ++ [e.id] }
  | cancels {s : Site} {e : TaskEntry} {t : Task} : s.board.find? e.id = some e → e.Next t →
      t.state = .cancelled → Move s { s.pass e t with answers := s.answers ++ [(e.id, true)] }
  /-- A task is not cancelled. -/
  | refuses {s : Site} {id : TaskId} :
      (∀ e, s.board.find? id = some e → e.state.isTerminal = true) →
      Move s { s with answers := s.answers ++ [(id, false)] }
  | admits {s : Site} {id : TaskId} {rest : List TaskId} {free : Nat} :
      s.board.free = free + 1 → s.board.waiting = id :: rest → s.board.isPending id = true →
      Move s (s.letIn id rest free)
  /-- A task that waits no longer is passed over. -/
  | skips {s : Site} {id : TaskId} {rest : List TaskId} :
      s.board.waiting = id :: rest → s.board.isPending id = false →
      Move s { s with board := { s.board with waiting := rest } }
  | begins {s : Site} {e : TaskEntry} {t : Task} {before after : List Body} :
      s.bodies = before ++ ⟨e.id, .opening⟩ :: after → s.board.find? e.id = some e → e.Next t →
      t.state = .running →
      Move s { s.pass e t with bodies := before ++ ⟨e.id, .building⟩ :: after }
  | builds {s : Site} {id : TaskId} {before after : List Body} :
      s.bodies = before ++ ⟨id, .building⟩ :: after →
      Move s { s with bodies := before ++ ⟨id, .running⟩ :: after }
  /-- A task at work ends. -/
  | ends {s : Site} {e : TaskEntry} {t : Task} {stage : Body.Stage} :
      ⟨e.id, stage⟩ ∈ s.bodies → stage ≠ .opening → s.board.find? e.id = some e → e.Next t →
      t.state.isTerminal = true → Move s (s.pass e t)
  /-- A body gives its slot back. Its task did not begin or has ended. -/
  | leaves {s : Site} {body : Body} {before after : List Body} :
      s.bodies = before ++ body :: after →
      (∀ e, s.board.find? body.id = some e → e.state ≠ body.stage.state) →
      Move s { s with
        board := { s.board with free := s.board.free + 1 }
        bodies := before ++ after }

/-- Any number of moves. -/
abbrev Moves : Site → Site → Prop := Relation.ReflTransGen Move

/-! ## Steps are series of moves -/

theorem put_pass (s : Site) (b : Board) (e : TaskEntry) (t : Task) :
    s.put (b.pass e t) = (s.put b).pass e t := by
  simp [put, Board.pass, Board.announce, Board.replace, pass]

theorem put_add (s : Site) (b : Board) (e : TaskEntry) : s.put (b.add e) = (s.put b).add e := by
  simp [put, Board.add, Board.announce, add, TaskEntry.id, TaskEntry.state]

theorem moves_fill (s : Site) (b : Board) (free : Nat) (waiting : List TaskId) :
    Moves (s.put { b with free := free, waiting := waiting }) (s.put (b.fill free waiting)) := by
  -- what is left of slots and queue is in the arguments of `fill`, and not yet on the board
  fun_induction Board.fill b free waiting with
  | case1 b waiting => exact .refl
  | case2 b free => exact .refl
  | case3 b free id rest hpending ih =>
      have hadmits : Move (s.put { b with free := free + 1, waiting := id :: rest }) _ :=
        .admits rfl rfl hpending
      refine .head hadmits ?_
      have hput : (s.put { b with free := free + 1, waiting := id :: rest }).letIn id rest free =
          s.put { b with admitted := b.admitted ++ [id], free := free, waiting := rest } := by
        simp [put, letIn]
      rw [hput]
      exact ih
  | case4 b free id rest hpending ih =>
      have hskips : Move (s.put { b with free := free + 1, waiting := id :: rest }) _ :=
        .skips rfl (Bool.eq_false_iff.mpr hpending)
      exact .head hskips ih

theorem moves_pump (s : Site) (b : Board) : Moves (s.put b) (s.put b.pump) :=
  moves_fill s b b.free b.waiting

theorem moves_start (s : Site) (b : Board) (id : TaskId) :
    Moves (s.put b)
      ({ s with submitted := s.submitted ++ started id (b.start id).1 }.put (b.start id).2) := by
  have hstarts := b.starts_start id
  generalize b.start id = result at hstarts
  cases hstarts with
  | refused error =>
      rw [show started id (.error error) = [] from rfl, List.append_nil]
  | @done e hknown hsubmitted =>
      obtain rfl := Board.id_of_find? hknown
      have hsubmits : Move (s.put b) _ := .submits hknown hsubmitted
      exact .head hsubmits (moves_pump { s with submitted := s.submitted ++ [e.id] } (b.submit e))

theorem move_cancel (s : Site) (b : Board) (id : TaskId) (now : Instant) :
    Move (s.put b)
      ({ s with answers := s.answers ++ [(id, (b.cancel id now).1.isSome)] }.put
        (b.cancel id now).2) := by
  have hcancels := b.cancels_cancel id now
  generalize b.cancel id now = result at hcancels
  cases hcancels with
  | refused hterminal => exact .refuses hterminal
  | @done e t hknown hnext hstate =>
      obtain rfl := Board.id_of_find? hknown
      dsimp only
      rw [put_pass]
      exact .cancels hknown hnext hstate

theorem moves_cancelAll (now : Instant) (ids : List TaskId) (s : Site) (b : Board) :
    Moves (s.put b)
      ({ s with answers := s.answers ++ answersOf now ids b }.put (b.cancelAll now ids).2) := by
  induction ids generalizing s b with
  | nil =>
      rw [show answersOf now [] b = [] from rfl, List.append_nil]
      exact .refl
  | cons id rest ih =>
      have hrest := ih { s with answers := s.answers ++ [(id, (b.cancel id now).1.isSome)] }
        (b.cancel id now).2
      dsimp only at hrest
      rw [List.append_assoc] at hrest
      exact .head (move_cancel s b id now) hrest

theorem moves_create (s : Site) {r : TaskRequest} {fresh : Board.Fresh} (now : Instant)
    (hnew : s.board.find? fresh.task = none) :
    Moves (s.put s.board) (s.create r fresh now) := by
  have hcreates := s.board.creates_create r fresh now
  unfold create
  generalize s.board.create r fresh now = result at hcreates
  cases hcreates with
  | refused error =>
      have hsubmitted : (if r.autoStart then started fresh.task (.error error) else []) = [] := by
        split <;> rfl
      dsimp only
      rw [hsubmitted, List.append_nil]
  | @done e hid hsubmitted hpast =>
      rw [← hid] at hnew ⊢
      have hadds : Move (s.put s.board) (s.put (s.board.add e)) := by
        rw [put_add]
        exact .adds hnew hsubmitted hpast
      refine .head hadds ?_
      cases r.autoStart with
      | false =>
          dsimp only
          rw [if_neg Bool.false_ne_true, List.append_nil]
          exact .refl
      | true =>
          dsimp only
          rw [if_pos rfl]
          exact moves_start s (s.board.add e) e.id

/-! ## Shutting down -/

theorem moves_drop (s : Site) (b : Board) (waiting : List TaskId)
    (hpending : ∀ id, b.isPending id = false) :
    Moves (s.put { b with waiting := waiting }) (s.put { b with waiting := [] }) := by
  induction waiting with
  | nil => exact .refl
  | cons id rest ih =>
      have hskips : Move (s.put { b with waiting := id :: rest }) _ :=
        .skips rfl (hpending id)
      exact .head hskips ih

theorem moves_shutdown (s : Site) (now : Instant) :
    Moves (s.put s.board) (s.shutdown now) := by
  have hcancels := moves_cancelAll now (s.board.entries.map TaskEntry.id) s s.board
  exact hcancels.trans (moves_drop _ _ _ (s.board.isPending_shutdown now))

/-! ## Bodies -/

theorem bodies_put {s : Site} {body : Body} {before after : List Body}
    (hbodies : s.bodies = before ++ body :: after) (b : Board) :
    (s.put b).bodies =
      before ++ body :: (after ++ b.admitted.map fun id => ⟨id, .opening⟩) := by
  simp [put, hbodies]

theorem moves_vacate {s : Site} {body : Body} {before after : List Body}
    (hbodies : s.bodies = before ++ body :: after) {b : Board}
    (hdone : ∀ e, b.find? body.id = some e → e.state ≠ body.stage.state) :
    Moves (s.put b) ({ s with bodies := before ++ after }.put b.vacate) := by
  have hleaves : Move (s.put b)
      ({ s with bodies := before ++ after }.put { b with free := b.free + 1 }) := by
    have hmove := Move.leaves (bodies_put hbodies b) hdone
    rw [← List.append_assoc] at hmove
    exact hmove
  exact .head hleaves (moves_pump _ _)

theorem moves_openBody {s : Site} {id : TaskId} (now : Instant) {before after : List Body}
    (hbodies : s.bodies = before ++ ⟨id, .opening⟩ :: after) :
    Moves (s.put s.board) (s.openBody id now (before, after)) := by
  have hbegins := s.board.begins_begin id now
  unfold openBody
  generalize s.board.begin id now = result at hbegins
  cases hbegins with
  | refused hrefused => exact moves_vacate hbodies hrefused
  | @done e t hknown hnext hstate =>
      obtain rfl := Board.id_of_find? hknown
      refine .single ?_
      have hmove := Move.begins (bodies_put hbodies s.board) hknown hnext hstate
      rw [← put_pass, ← List.cons_append, ← List.append_assoc] at hmove
      exact hmove

theorem moves_closeBody {s : Site} {id : TaskId} {stage : Body.Stage} (result : Board.Result)
    (now : Instant) {before after : List Body} (hbodies : s.bodies = before ++ ⟨id, stage⟩ :: after)
    (hstage : stage ≠ .opening) :
    Moves (s.put s.board) (s.closeBody id result now (before, after)) := by
  have hrunning : stage.state = .running := by
    cases stage with
    | opening => exact absurd rfl hstage
    | building | running => rfl
  have hfinishes := s.board.finishes_finish id result now
  unfold closeBody
  generalize s.board.finish id result now = b at hfinishes
  -- the task has ended meanwhile, or its result ends it; the slot is vacated either way
  cases hfinishes with
  | refused hrefused =>
      refine moves_vacate hbodies fun e he => ?_
      rw [hrunning]
      exact hrefused e he
  | @done e t hknown hnext hstate =>
      obtain rfl := Board.id_of_find? hknown
      have hterminal : t.state.isTerminal = true := hstate ▸ result.isTerminal_state
      have hmem : ⟨e.id, stage⟩ ∈ (s.put s.board).bodies := by
        rw [bodies_put hbodies]
        simp
      have hends := Move.ends hmem hstage hknown hnext hterminal
      rw [← put_pass] at hends
      refine .head hends (moves_vacate hbodies fun e' he' => ?_)
      rw [Board.find?_pass hknown hnext, if_pos hnext.id.symm] at he'
      cases he'
      rw [hrunning]
      intro hstill
      rw [show t.state = .running from hstill] at hterminal
      cases hterminal

/-! ## What moves do to records -/

/-- The record `t` comes next after what was known of the task. -/
inductive Follows (t : Task) : Option Task → Prop where
  | enters : t.Past [t.state] → Follows t none
  | passes {e : TaskEntry} : e.Next t → Follows t (some e.task)

/-- What a move does to the records of tasks. -/
inductive Records (s s' : Site) : Prop where
  | same : s'.published = s.published → (∀ id, s'.board.get? id = s.board.get? id) → Records s s'
  | follows {t : Task} : Follows t (s.board.get? t.id) →
      s'.published = s.published ++ [⟨t.parentSessionId, t.id, t.state⟩] →
      (∀ id, s'.board.get? id = if id = t.id then some t else s.board.get? id) → Records s s'

theorem records_of_pass {e : TaskEntry} {t : Task} (hknown : s.board.find? e.id = some e)
    (hnext : e.Next t) (hboard : s'.board = (s.pass e t).board)
    (hpublished : s'.published = (s.pass e t).published) : Records s s' := by
  have hfollows : Follows t (s.board.get? t.id) := by
    rw [hnext.id, Board.get?_of_find? hknown]
    exact .passes hnext
  refine .follows hfollows hpublished fun id => ?_
  rw [hboard]
  exact Board.get?_pass hknown hnext id

theorem Move.records (h : Move s s') : Records s s' := by
  cases h with
  | @adds e hnew hsubmitted hpast =>
      have hfollows : Follows e.task (s.board.get? e.task.id) := by
        unfold Board.get?
        rw [show s.board.find? e.task.id = none from hnew]
        exact .enters (hpast.state_of_new ▸ hpast)
      exact .follows hfollows rfl (Board.get?_add hnew)
  | submits hknown hsubmitted => exact .same rfl (Board.get?_submit hknown)
  | cancels hknown hnext hstate => exact records_of_pass hknown hnext rfl rfl
  | begins hbodies hknown hnext hstate => exact records_of_pass hknown hnext rfl rfl
  | ends hbody hstage hknown hnext hterminal => exact records_of_pass hknown hnext rfl rfl
  | refuses | admits | skips | builds | leaves => exact .same rfl fun _ => rfl

/-- The record of a task that is done is final. -/
theorem Records.final (h : Records s s') {id : TaskId} {t : Task}
    (ht : s.board.get? id = some t) (hterminal : t.isTerminal = true) :
    s'.board.get? id = some t := by
  cases h with
  | same hpublished hget => rw [hget, ht]
  | @follows t' hfollows hpublished hget =>
      have hother : id ≠ t'.id := by
        rintro rfl
        rw [ht] at hfollows
        cases hfollows with
        | passes hnext => exact Bool.false_ne_true (hnext.not_isTerminal.symm.trans hterminal)
      rw [hget, if_neg hother, ht]

/-! ## What moves preserve -/

theorem Step.moves {s s' : Site} (h : Step s s') (hs : s.Settled) : Moves s s' := by
  have hput {s' : Site} (hmoves : Moves (s.put s.board) s') : Moves s s' := by
    rwa [hs.put_board] at hmoves
  cases h with
  | creates r fresh now hnew => exact hput (moves_create s now hnew)
  | starts id => exact hput (moves_start s s.board id)
  | cancels id now => exact hput (.single (move_cancel s s.board id now))
  | shutsDown now => exact hput (moves_shutdown s now)
  | waits => exact .refl
  | opens now hbodies => exact hput (moves_openBody now hbodies)
  | builds hbodies => exact .single (.builds hbodies)
  | fails text now hbodies => exact hput (moves_closeBody _ now hbodies (by decide))
  | ends result now hbodies => exact hput (moves_closeBody result now hbodies (by decide))

theorem Moves.preserves {P : Site → Prop} (hmove : ∀ s s', Move s s' → P s → P s') {s s' : Site}
    (h : Moves s s') (hs : P s) : P s' := by
  induction h with
  | refl => exact hs
  | tail _ hlast ih => exact hmove _ _ hlast ih

/-- What every move preserves is preserved by every run from a settled site. -/
theorem Runs.preserves {P : Site → Prop} (hmove : ∀ s s', Move s s' → P s → P s') {s s' : Site}
    (h : Runs s s') (hsettled : s.Settled) (hs : P s) : P s' := by
  induction h with
  | refl => exact hs
  | tail hruns hstep ih =>
      exact Moves.preserves hmove (hstep.moves (Runs.settled hruns hsettled)) ih

end Site

end AgentSessions
