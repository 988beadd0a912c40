import AgentSessions.Proofs.Task.Calls
import AgentSessions.Proofs.Task.Office

/-!
# What requests leave

What becomes of a board when somebody asks for something, entry by entry: a request that is granted
adds one entry behind the others, a task that is submitted is marked so and nothing else changes
with it, and one that is cancelled passes on alone. On a board that was reached by steps a task that
is submitted stands last in the queue, or nobody waits and it takes a free slot (`Board.Queues`);
nobody else is admitted by that.

What the world shows of a request is the board then, the events of tasks that were published, the
bodies that have to be started and the tokens that were tripped (`World.Turns`).
-/

set_option autoImplicit false

namespace AgentSessions

variable {η : Type}

namespace Board

variable {b : Board} {e : TaskEntry} {id : TaskId} {r : TaskRequest} {fresh : Fresh}

/-- The board when what was noted on it has been taken from there. -/
def taken (b : Board) : Board :=
  { b with changes := [], admitted := [] }

/-! ## Submissions -/

/-- A task that was submitted stands last in the queue, or it takes a free slot at once: the board
then, and who was admitted. -/
inductive Queues (b : Board) (id : TaskId) : Board → List TaskId → Prop where
  | behind : b.free = 0 → Queues b id { b with waiting := b.waiting ++ [id] } []
  | atOnce {free : Nat} : b.free = free + 1 → b.waiting = [] →
      Queues b id { b with free := free } [id]

theorem Queues.taken {b' : Board} {admitted : List TaskId} (h : b.Queues id b' admitted) :
    b.taken.Queues id b'.taken admitted := by
  cases h with
  | behind hfree => exact .behind hfree
  | atOnce hfree hwaiting => exact .atOnce hfree hwaiting

theorem Queues.changes {b' : Board} {admitted : List TaskId} (h : b.Queues id b' admitted) :
    b'.changes = b.changes := by
  cases h <;> rfl

theorem queues_pump (hgreedy : b.Greedy) (hpending : b.isPending id = true) :
    ∃ b' admitted, b.Queues id b' admitted ∧
      ({ b with waiting := b.waiting ++ [id] } : Board).pump =
        { b' with admitted := b.admitted ++ admitted } := by
  obtain ⟨entries, waiting, slots, free, maxDepth, agentTypes, changes, admitted⟩ := b
  cases free with
  | zero =>
      refine ⟨_, _, .behind rfl, ?_⟩
      simp only [pump, fill, List.append_nil]
  | succ free =>
      obtain rfl : waiting = [] := hgreedy.resolve_left (Nat.succ_ne_zero free)
      refine ⟨_, _, .atOnce rfl rfl, ?_⟩
      simp only [pump, List.nil_append, fill]
      refine (if_pos hpending).trans ?_
      cases free <;> rfl

/-- A task that waits to be started is started. -/
theorem start_pending (hgreedy : b.Greedy) (he : b.find? id = some e)
    (hunsubmitted : e.submitted = false) (hpending : e.state = .pending) :
    ∃ b' admitted, (b.replace { e with submitted := true }).Queues id b' admitted ∧
      b.start id = (.ok e.task, { b' with admitted := b.admitted ++ admitted }) := by
  have hid := id_of_find? he
  have hold : b.find? e.id = some e := hid ▸ he
  have hfind : (b.replace { e with submitted := true }).find? id =
      some { e with submitted := true } :=
    (find?_replace (e := { e with submitted := true }) hold id).trans (if_pos hid.symm)
  have hstill : (b.replace { e with submitted := true }).isPending id = true :=
    (isPending_iff _ _).mpr ⟨_, hfind, hpending⟩
  obtain ⟨b', admitted, hqueues, hpump⟩ := queues_pump (b := b.replace _) hgreedy hstill
  refine ⟨b', admitted, hqueues, ?_⟩
  unfold start
  rw [he]
  dsimp only
  rw [if_neg (hpending ▸ by decide), if_neg (Bool.eq_false_iff.mp hunsubmitted), hpump]
  rfl

/-- Whoever is not refused starts a task that was not submitted and not cancelled. -/
theorem start_cases (b : Board) (id : TaskId) :
    (∃ error, b.start id = (.error error, b)) ∨
      ∃ e, b.find? id = some e ∧ e.submitted = false ∧ e.state ≠ .cancelled := by
  have hstarts := b.starts_start id
  generalize b.start id = result at hstarts
  cases hstarts with
  | refused error => exact .inl ⟨error, rfl⟩
  | done he hunsubmitted hopen => exact .inr ⟨_, he, hunsubmitted, hopen⟩

/-! ## Requests -/

/-- The entry of a new task. -/
def newEntry (r : TaskRequest) (fresh : Fresh) (now : Instant) : TaskEntry :=
  ⟨newTask r fresh now, false, fresh.token⟩

/-- An entry that was just added is marked where it stands. -/
theorem replace_add (hnew : b.find? e.id = none) :
    (b.add e).replace { e with submitted := true } = b.add { e with submitted := true } := by
  have hothers : (b.entries.map fun e' =>
      if e'.id = e.id then { e with submitted := true } else e') = b.entries := by
    refine (List.map_congr_left fun e' he' => ?_).trans (List.map_id b.entries)
    have hother := List.find?_eq_none.mp hnew e' he'
    exact if_neg (by simpa using hother)
  have hentries : ((b.add e).replace { e with submitted := true }).entries =
      b.entries ++ [{ e with submitted := true }] := by
    show (b.entries ++ [e]).map _ = _
    rw [List.map_append]
    refine congrArg₂ _ hothers ?_
    simp [TaskEntry.id]
  exact congrArg (fun entries => { b.add e with entries := entries }) hentries

theorem create_unstarted (hrefusal : b.refusal? r = none) (hauto : r.autoStart = false)
    (now : Instant) :
    b.create r fresh now = (.ok (newTask r fresh now), b.add (newEntry r fresh now)) := by
  unfold create
  rw [hrefusal]
  dsimp only
  rw [hauto, if_neg Bool.false_ne_true]
  rfl

theorem create_started (hrefusal : b.refusal? r = none) (hauto : r.autoStart = true)
    (hnew : b.find? fresh.task = none) (hgreedy : b.Greedy) (now : Instant) :
    ∃ b' admitted,
      (b.add { newEntry r fresh now with submitted := true }).Queues fresh.task b' admitted ∧
        b.create r fresh now =
          (.ok (newTask r fresh now), { b' with admitted := b.admitted ++ admitted }) := by
  have hfind : (b.add (newEntry r fresh now)).find? fresh.task = some (newEntry r fresh now) :=
    (find?_add (e := newEntry r fresh now) hnew fresh.task).trans (if_pos rfl)
  obtain ⟨b', admitted, hqueues, hstart⟩ := start_pending (b := b.add (newEntry r fresh now))
    hgreedy hfind rfl rfl
  rw [replace_add (e := newEntry r fresh now) hnew] at hqueues
  refine ⟨b', admitted, hqueues, ?_⟩
  unfold create
  rw [hrefusal]
  dsimp only
  rw [hauto, if_pos rfl]
  exact hstart

/-! ## Cancellations -/

/-- A task that was cancelled. -/
def cancelledTask (t : Task) (now : Instant) : Task :=
  { t with state := .cancelled, finishedAt := some now, error := some cancelledText }

theorem cancel_open (he : b.find? id = some e) (hopen : e.state.isTerminal = false)
    (now : Instant) : b.cancel id now = (some e.token, b.pass e (cancelledTask e.task now)) := by
  have hlegal : e.state.canBecome .cancelled = true := by
    rw [TaskState.canBecome_cancelled, hopen]
    rfl
  unfold cancel change
  rw [he]
  dsimp only
  rw [if_pos hlegal]
  rfl

theorem cancel_done (hdone : ∀ e, b.find? id = some e → e.state.isTerminal = true)
    (now : Instant) : b.cancel id now = (none, b) := by
  unfold cancel change
  cases he : b.find? id with
  | none => rfl
  | some e =>
      have hillegal : ¬e.state.canBecome .cancelled = true := by
        rw [TaskState.canBecome_cancelled, hdone e he]
        exact Bool.false_ne_true
      dsimp only
      rw [if_neg hillegal]

end Board

/-! ## The order of a list -/

theorem Instant.notAfter_iff {a b : Instant} :
    a.notAfter b = true ↔ a.seconds < b.seconds ∨ a.seconds = b.seconds ∧ a.nanos ≤ b.nanos :=
  decide_eq_true_iff

theorem Instant.notAfter_refl (a : Instant) : a.notAfter a = true :=
  notAfter_iff.mpr (.inr ⟨rfl, Nat.le_refl _⟩)

theorem Instant.notAfter_trans {a b c : Instant} (hab : a.notAfter b = true)
    (hbc : b.notAfter c = true) : a.notAfter c = true := by
  rw [notAfter_iff] at hab hbc ⊢
  omega

theorem Instant.notAfter_total (a b : Instant) : a.notAfter b = true ∨ b.notAfter a = true := by
  rw [notAfter_iff, notAfter_iff]
  omega

theorem Instant.notAfter_antisymm {a b : Instant} (hab : a.notAfter b = true)
    (hba : b.notAfter a = true) : a = b := by
  rw [notAfter_iff] at hab hba
  obtain ⟨hseconds, hnanos⟩ : a.seconds = b.seconds ∧ a.nanos = b.nanos := by
    omega
  cases a
  cases b
  exact congrArg₂ Instant.mk hseconds hnanos

namespace Task

theorem notAfter_iff {a b : Task} :
    a.notAfter b = true ↔
      a.createdAt.notAfter b.createdAt = true ∧
        (a.createdAt = b.createdAt → a.id.text ≤ b.id.text) := by
  unfold notAfter
  split
  · rename_i hsame
    rw [decide_eq_true_iff, hsame]
    simp [Instant.notAfter_refl]
  · rename_i hdifferent
    simp [hdifferent]

theorem notAfter_trans {a b c : Task} (hab : a.notAfter b = true) (hbc : b.notAfter c = true) :
    a.notAfter c = true := by
  rw [notAfter_iff] at hab hbc ⊢
  refine ⟨Instant.notAfter_trans hab.1 hbc.1, fun hac => ?_⟩
  have hsame : a.createdAt = b.createdAt := by
    refine Instant.notAfter_antisymm hab.1 ?_
    rw [hac]
    exact hbc.1
  exact String.le_trans (hab.2 hsame) (hbc.2 (hsame.symm.trans hac))

theorem notAfter_total (a b : Task) : a.notAfter b = true ∨ b.notAfter a = true := by
  rw [notAfter_iff, notAfter_iff]
  by_cases hsame : a.createdAt = b.createdAt
  · rw [hsame]
    simpa [Instant.notAfter_refl] using String.le_total a.id.text b.id.text
  · simpa [hsame, Ne.symm hsame] using Instant.notAfter_total a.createdAt b.createdAt

end Task

namespace Board

theorem perm_list (b : Board) (f : TaskFilter) :
    (b.list f).Perm ((b.entries.map TaskEntry.task).filter f.accepts) :=
  List.mergeSort_perm _ _

/-- No task of a list is older than one before it. -/
theorem pairwise_list (b : Board) (f : TaskFilter) :
    (b.list f).Pairwise fun t t' => t.createdAt.notAfter t'.createdAt = true := by
  have hsorted : (b.list f).Pairwise fun t t' => t.notAfter t' = true := by
    refine List.pairwise_mergeSort (fun t t' t'' => ?_) (fun t t' => ?_) _
    · exact Task.notAfter_trans
    · rw [Bool.or_eq_true]
      exact Task.notAfter_total t t'
  exact hsorted.imp fun h => (Task.notAfter_iff.mp h).1

end Board

/-! ## What the world shows -/

namespace World

variable {w w' : World η}

/-- The world shows as a site that was reached by steps. -/
def Reached (w : World η) : Prop :=
  ∃ maxConcurrent maxDepth agentTypes bodies s,
    Site.Runs (.opening maxConcurrent maxDepth agentTypes) s ∧ w.Stages bodies s

/-- What the world shows of a request: the board then, the events that were published, the bodies
that have to be started and the tokens that were tripped. -/
structure Turns (w : World η) (b : Board) (events : List Event) (admitted : List TaskId)
    (tokens : List Token) (w' : World η) : Prop where
  board : w'.board = b
  events : w'.events = w.events ++ events
  starts : w'.starts = w.starts ++ admitted.map .body
  tripped : ∀ token, w'.isTripped token = true ↔ w.isTripped token = true ∨ token ∈ tokens

/-- Nothing is to be seen. -/
abbrev Rests (w w' : World η) : Prop :=
  w.Turns w.board [] [] [] w'

theorem Rests.refl (w : World η) : w.Rests w :=
  ⟨rfl, by simp, by simp, by simp⟩

theorem turns_putBoard (w : World η) (now : Nat) (b : Board) :
    w.Turns b.taken (b.changes.map (changeEvent now)) b.admitted [] (w.putBoard now b) :=
  ⟨rfl, rfl, rfl, fun token => by simp [putBoard, isTripped]⟩

/-- Of the identifiers and the token that are handed out nothing is to be seen. -/
theorem turns_of_handedOut {b : Board} {events : List Event} {admitted : List TaskId}
    {tokens : List Token} (h : w.handedOut.Turns b events admitted tokens w') :
    w.Turns b events admitted tokens w' :=
  ⟨h.board, h.events, h.starts, h.tripped⟩

theorem Turns.trip {b : Board} {events : List Event} {admitted : List TaskId}
    (h : w.Turns b events admitted [] w') (token : Token) :
    w.Turns b events admitted [token] (w'.trip token) := by
  have htripped : ∀ token', (w'.trip token).isTripped token' = true ↔
      w'.isTripped token' = true ∨ token' = token := by
    intro token'
    unfold World.trip
    split
    · rename_i hbefore
      refine ⟨.inl, fun h => h.elim id ?_⟩
      rintro rfl
      exact hbefore
    · simp [isTripped, or_comm]
  have hsame : (w'.trip token).board = w'.board ∧ (w'.trip token).events = w'.events ∧
      (w'.trip token).starts = w'.starts := by
    unfold World.trip
    split <;> exact ⟨rfl, rfl, rfl⟩
  refine ⟨hsame.1.trans h.board, hsame.2.1.trans h.events, hsame.2.2.trans h.starts,
    fun token' => ?_⟩
  rw [htripped, h.tripped]
  simp

namespace Reached

theorem changes (h : w.Reached) : w.board.changes = [] := by
  obtain ⟨_, _, _, _, s, -, hs⟩ := h
  rw [← hs.board]
  exact hs.settled.changes

theorem admitted (h : w.Reached) : w.board.admitted = [] := by
  obtain ⟨_, _, _, _, s, -, hs⟩ := h
  rw [← hs.board]
  exact hs.settled.admitted

theorem taken_board (h : w.Reached) : w.board.taken = w.board := by
  unfold Board.taken
  rw [← h.changes, ← h.admitted]

theorem greedy (h : w.Reached) : w.board.Greedy := by
  obtain ⟨_, _, _, _, s, hruns, hs⟩ := h
  rw [← hs.board]
  exact Site.Runs.greedy hruns (.inr rfl)

theorem pending_of_unsubmitted (h : w.Reached) {id : TaskId} {e : TaskEntry}
    (he : w.board.find? id = some e) (hunsubmitted : e.submitted = false)
    (hopen : e.state ≠ .cancelled) : e.state = .pending := by
  obtain ⟨_, _, _, _, s, hruns, hs⟩ := h
  rw [← hs.board] at he
  exact (Site.Runs.manned hruns).pending_of_unsubmitted he hunsubmitted hopen

/-- Whoever puts the board back as it was shows nothing. -/
theorem rests (h : w.Reached) {now : Nat}
    (hturns : w.Turns w.board.taken (w.board.changes.map (changeEvent now)) w.board.admitted []
      w') : w.Rests w' := by
  rwa [h.taken_board, h.changes, h.admitted] at hturns

end Reached

end World

end AgentSessions
