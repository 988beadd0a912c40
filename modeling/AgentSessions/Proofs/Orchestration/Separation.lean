import AgentSessions.Proofs.Orchestration.Mirrors
import AgentSessions.Proofs.Orchestration.Storing

/-!
# Sessions do not interfere

An execution in which several sessions are at work is compared with the one in which only the
operations of one of them are done, with the numbers and times left out that say nothing about it.
The two floors mirror each other (`mirrors_play`): operations for other sessions leave alone what
the floor shows of the session (`InOrder.spares_perform`), and its own operations are done alike on
both (`goAlike_perform`).

Two executions that mirror the same third one are the same for the session. So all that a session
sees is fixed by its own operations (`sessions_apart`).
-/

set_option autoImplicit false

namespace AgentSessions

variable {view : Instant → Instant} {s : SessionId}

namespace Floor

section

variable {setup : Engine.Setup} {o : Oracle}

/-! ## Executions -/

theorem seenFor_append (s : SessionId) (seen seen' : List (SessionId × Sight)) :
    seenFor s (seen ++ seen') = seenFor s seen ++ seenFor s seen' := by
  unfold seenFor
  rw [List.filter_append, List.map_append]

theorem seenFor_own (s : SessionId) (sights : List Sight) :
    seenFor s (sights.map (s, ·)) = sights := by
  have hall : ∀ seen ∈ sights.map (s, ·), decide (seen.1 = s) = true := by
    intro seen hseen
    obtain ⟨sight, -, rfl⟩ := List.mem_map.mp hseen
    exact decide_eq_true rfl
  rw [seenFor, List.filter_eq_self.mpr hall, List.map_map]
  exact List.map_id _

theorem seenFor_other {id : SessionId} (hne : s ≠ id) (sights : List Sight) :
    seenFor s (sights.map (id, ·)) = [] := by
  have hnone : ∀ seen ∈ sights.map (id, ·), ¬decide (seen.1 = s) = true := by
    intro seen hseen
    obtain ⟨sight, -, rfl⟩ := List.mem_map.mp hseen
    simpa using hne.symm
  rw [seenFor, List.filter_eq_nil_iff.mpr hnone]
  rfl

/-- The operations of a session, with what is set aside left out. -/
def Op.ownOf (view : Instant → Instant) (s : SessionId) (ops : List Op) : List Op :=
  (ops.map (Op.blur view)).filter fun op => decide (op.session = s)

/-- **A session comes as far, and sees the same, without the others.** Its own operations, with
what is set aside left out, mirror any execution in which they are done in this order. -/
theorem mirrors_play (hsetup : setup.Respects view) (ho : o.Respects view) (ops : List Op) :
    ∀ {f g : Floor}, f.InOrder → g.InOrder → f.Mirrors view s g →
      (play setup o f ops).2.Mirrors view s (play setup o g (Op.ownOf view s ops)).2 ∧
        (seenFor s (play setup o g (Op.ownOf view s ops)).1).map (Sight.blur id) =
          (seenFor s (play setup o f ops).1).map (Sight.blur view) := by
  induction ops with
  | nil => exact fun _ _ h => ⟨h, rfl⟩
  | cons op rest ih =>
      intro f g hf hg h
      by_cases hown : op.session = s
      · -- the operation is done on both sides
        subst hown
        have hops : Op.ownOf view op.session (op :: rest) =
            op.blur view :: Op.ownOf view op.session rest :=
          List.filter_cons_of_pos (decide_eq_true (op.session_blur view))
        have halike := goAlike_perform hf hg hsetup ho op h
        obtain ⟨hmirrors, hsights⟩ := ih (hf.perform o op) (hg.perform o (op.blur view))
          halike.floors
        rw [hops]
        refine ⟨hmirrors, ?_⟩
        simp only [play]
        rw [Op.session_blur, seenFor_append, seenFor_append, seenFor_own, seenFor_own,
          List.map_append, List.map_append, halike.sights, hsights]
      · -- the operation is for another session, and left out on the right
        have hops : Op.ownOf view s (op :: rest) = Op.ownOf view s rest := by
          refine List.filter_cons_of_neg ?_
          rw [Op.session_blur, decide_eq_true_iff]
          exact hown
        obtain ⟨hmirrors, hsights⟩ := ih (hf.perform o op) hg
          (h.spared (hf.spares_perform o (Ne.symm hown)))
        rw [hops]
        refine ⟨hmirrors, ?_⟩
        simp only [play]
        rw [seenFor_append, seenFor_other (Ne.symm hown), List.nil_append, hsights]

end

end Floor

/-- The prompt that an engine was made to run. -/
def Sight.ran? : Sight → Option String
  | .noted (.opened _ _ prompt) => prompt
  | _ => none

theorem Sight.ran?_blur (view : Instant → Instant) (sight : Sight) :
    (sight.blur view).ran? = sight.ran? := by
  cases sight with
  | noted e => cases e <;> rfl
  | told | published | begun | found => rfl

namespace Floor

/-- Two executions are the same for a session, numbers of messages and engines aside, and times as
far as they differ in a view. -/
structure SameFor (view : Instant → Instant) (s : SessionId)
    (r r' : List (SessionId × Sight) × Floor) : Prop where
  /-- Replies, reports, events and saves. -/
  sights : (seenFor s r'.1).map (Sight.blur view) = (seenFor s r.1).map (Sight.blur view)
  /-- The prompts that were run, in this order. -/
  ran : (seenFor s r'.1).filterMap Sight.ran? = (seenFor s r.1).filterMap Sight.ran?
  busy : r'.2.desk.queue.isBusy s = r.2.desk.queue.isBusy s
  backlog : (r'.2.desk.queue.waiting s).map (QueuedMessage.blur view) =
    (r.2.desk.queue.waiting s).map (QueuedMessage.blur view)
  stored : (r'.2.store s).map (Snapshot.retime view) = (r.2.store s).map (Snapshot.retime view)

/-- Executions with the same operations for a session are the same for it. -/
theorem sameFor_of_ownOf {setup : Engine.Setup} (hsetup : setup.Respects view) {o : Oracle}
    (ho : o.Respects view) (maxBacklog : Option Nat) (store : SessionId → Option Snapshot)
    {ops ops' : List Op} (hops : Op.ownOf view s ops' = Op.ownOf view s ops) :
    SameFor view s (play setup o (opening maxBacklog store) ops)
      (play setup o (opening maxBacklog store) ops') := by
  have hopening := inOrder_opening maxBacklog store
  have hblurred := inOrder_opening maxBacklog fun id => (store id).map (Snapshot.retime view)
  have hmirrors : (opening maxBacklog store).Mirrors view s _ := mirrors_opening maxBacklog store s
  obtain ⟨hleft, hseen⟩ := mirrors_play hsetup ho ops hopening hblurred hmirrors
  obtain ⟨hright, hseen'⟩ := mirrors_play hsetup ho ops' hopening hblurred hmirrors
  rw [hops] at hright hseen'
  have hsights := hseen'.symm.trans hseen
  refine ⟨hsights, ?_, ?_, ?_, ?_⟩
  · have hran : ∀ sights : List Sight, sights.filterMap Sight.ran? =
        (sights.map (Sight.blur view)).filterMap Sight.ran? := by
      intro sights
      rw [List.filterMap_map]
      exact List.filterMap_congr fun sight _ => (Sight.ran?_blur view sight).symm
    rw [hran, hsights, ← hran]
  · rw [← hright.desk.busy, hleft.desk.busy]
  · rw [← hright.desk.waiting, hleft.desk.waiting]
  · rw [← hright.store, hleft.store]

/-- **Sessions do not interfere.** Take any execution and leave out all that is done for a session
`T`; the messages may get other numbers and the clock may show other times, as far as a view of time
does not show it. Then all is the same for any other session `S`: the replies, what is saved, the
order in which prompts are run, the backlog, and whether anybody is at work; and a store in memory
finds the same under `S`. The view `id` shows all times; a constant view shows none.

Tools answer by themselves here, so nothing is delegated. The one who answers and the compactor, if
there is one, do the same whatever the view does not show; a compactor by settings does
(`Setup.Contextual.respects`). -/
theorem sessions_apart (setup : Engine.Setup) (o : Oracle) (view : Instant → Instant)
    (hsetup : setup.Respects view) (ho : o.Respects view) {S T : SessionId} (hne : S ≠ T)
    (maxBacklog : Option Nat) (store : SessionId → Option Snapshot) (ops ops' : List Op)
    (hops : ops'.map (Op.blur view) =
      (ops.filter fun op => decide (op.session ≠ T)).map (Op.blur view)) :
    SameFor view S (play setup o (opening maxBacklog store) ops)
        (play setup o (opening maxBacklog store) ops') ∧
      ∀ memory : MemoryStore, store = memory.load →
        ((memory.after ((play setup o (opening maxBacklog store) ops').1.map (·.2))).load S).map
            (Snapshot.retime view) =
          ((memory.after ((play setup o (opening maxBacklog store) ops).1.map (·.2))).load S).map
            (Snapshot.retime view) := by
  have hown : Op.ownOf view S ops' = Op.ownOf view S ops := by
    rw [Op.ownOf, hops, List.filter_map, List.filter_filter, Op.ownOf, List.filter_map]
    refine congrArg (List.map _) (List.filter_congr fun op _ => ?_)
    -- what is done for `S` is not done for `T`
    rw [Function.comp_apply, Op.session_blur]
    by_cases hsession : op.session = S
    · rw [hsession, decide_eq_true rfl, decide_eq_true hne]
      rfl
    · rw [decide_eq_false hsession, Bool.false_and]
  have hsame := sameFor_of_ownOf hsetup ho maxBacklog store hown
  refine ⟨hsame, fun memory hstore => ?_⟩
  have hkept : ∀ ops, (play setup o (opening maxBacklog store) ops).2.store =
      (memory.after ((play setup o (opening maxBacklog store) ops).1.map (·.2))).load :=
    fun ops => store_play setup o ops hstore
  rw [← hkept, ← hkept]
  exact hsame.stored

/-- A model that says hello to everybody, and nobody in its way. -/
def greeting : Oracle where
  model _ := .ok (.text "hello")
  summarize _ := .ok ""
  check number request := Dialogue.idleAnswer (.check number request)
  confirm request := Dialogue.idleAnswer (.confirm request)
  tool _ _ _ _ := .ok ""
  review number request := Dialogue.idleAnswer (.review number request)
  loadError? _ := none
  saveError? _ _ := none

/-- A prompt comes in for a session, and the work on it goes on until it ends. -/
def greet (id : SessionId) (now : Nat → Instant) : List Op :=
  .receive ⟨⟨"msg"⟩, id, "hi", .normal, .empty, now 0⟩ true ::
    (List.range 12).map fun n => .goOn id (now n)

/-- Two sessions are greeted in turns. -/
def greetInTurns : List Op :=
  List.flatten (List.zipWith (fun op op' => [op, op'])
    (greet ⟨"t"⟩ fun n => ⟨2 * n, 0⟩) (greet ⟨"s"⟩ fun n => ⟨2 * n + 1, 0⟩))

/-- What comes of operations when nothing is stored. -/
def afresh (ops : List Op) : List (SessionId × Sight) × Floor :=
  play .plain greeting (opening none MemoryStore.empty.load) ops

theorem sessions_apart_when_greeted_in_turns :
    SameFor (fun _ => default) ⟨"s"⟩ (afresh greetInTurns)
        (afresh (greet ⟨"s"⟩ fun n => ⟨n, 0⟩)) ∧
      ((MemoryStore.empty.after
          ((afresh (greet ⟨"s"⟩ fun n => ⟨n, 0⟩)).1.map (·.2))).load ⟨"s"⟩).map
          (Snapshot.retime fun _ => default) =
        ((MemoryStore.empty.after ((afresh greetInTurns).1.map (·.2))).load ⟨"s"⟩).map
          (Snapshot.retime fun _ => default) ∧
      ∀ id, id = ⟨"s"⟩ ∨ id = ⟨"t"⟩ →
        (seenFor id (afresh greetInTurns).1).filterMap Sight.ran? = ["hi"] := by
  have hrespects : greeting.Respects fun _ => default :=
    ⟨fun _ => rfl, fun _ => rfl, fun _ _ => rfl⟩
  have hne : (⟨"s"⟩ : SessionId) ≠ ⟨"t"⟩ := by decide
  obtain ⟨hsame, hstored⟩ := sessions_apart .plain greeting _
    Engine.Setup.contextual_plain.respects hrespects hne none MemoryStore.empty.load greetInTurns
    (greet ⟨"s"⟩ fun n => ⟨n, 0⟩) rfl
  refine ⟨hsame, hstored .empty rfl, ?_⟩
  rintro id (rfl | rfl)
  · rfl
  · rfl

end Floor

end AgentSessions
