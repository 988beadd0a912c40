import AgentSessions.Proofs.Hook.Hearings
import AgentSessions.Proofs.Hook.RunOrder
import Mathlib.Data.List.Nodup

/-!
# The chain of handlers for a call

A chain hears its handlers in turn, and comes to what their answers come to. Its state is nothing
but the answers so far: the request as they left it, whether one of them gave arguments, and the
reason of the first that asked. So a chain is run from its answers so far (`preAfter`), and who is
heard is a walk of its own (`hearings`).

A handler that does not answer leaves no trace in that state. The walk without it is the walk with
it, less its hearing (`hearings_filter`), though other handlers may fail on the arguments that some
before them gave.
-/

set_option autoImplicit false

namespace AgentSessions

open Json (Object)

namespace Chain

variable {β : Type}

/-- The hearings of these handlers. -/
def hearings (reply : Handler β → PreRequest → Reply PreOutcome) :
    List (Handler β) → PreRequest → List (Hearing (Handler β) PreRequest PreOutcome)
  | [], _ => []
  | h :: rest, q =>
      match (reply h q).answer? with
      | none => ⟨h, q, reply h q⟩ :: hearings reply rest q
      | some o =>
          if o.decision = .deny then [⟨h, q, reply h q⟩]
          else ⟨h, q, reply h q⟩ :: hearings reply rest (q.after [o])

/-- The warnings that these hearings are worth. -/
def warningsOf {ρ α : Type} (timeout : UInt64) (log : List (Hearing (Handler β) ρ α)) :
    List Warning :=
  log.filterMap fun h => h.reply.warning? h.who.name (h.who.timeout timeout)

/-- The minutes with these hearings added. -/
def extend {ρ α : Type} (m : Minutes (Handler β) ρ α) (timeout : UInt64)
    (log : List (Hearing (Handler β) ρ α)) : Minutes (Handler β) ρ α :=
  ⟨m.hearings ++ log, m.warnings ++ warningsOf timeout log⟩

section Minutes

variable {ρ α : Type} (m : Minutes (Handler β) ρ α) (timeout : UInt64)

theorem extend_nil : extend m timeout [] = m := by
  simp [extend, warningsOf]

theorem extend_cons (h : Hearing (Handler β) ρ α) (log : List (Hearing (Handler β) ρ α)) :
    extend m timeout (h :: log) = extend (extend m timeout [h]) timeout log := by
  have hwarnings : warningsOf timeout ([h] ++ log) =
      warningsOf timeout [h] ++ warningsOf timeout log := List.filterMap_append
  rw [List.singleton_append] at hwarnings
  simp only [extend, hwarnings, List.append_assoc, List.singleton_append]

/-- Consulting a handler is to hear it, and to warn of what is no answer. -/
theorem consult_minuting (reply : Handler β → ρ → Reply α) (request : ρ) (h : Handler β) :
    (consult (minuting reply · request) timeout h).run m =
      ((reply h request).answer?, extend m timeout [⟨h, request, reply h request⟩]) := by
  unfold consult minuting extend warningsOf
  cases hreply : reply h request with
  | answered o => simp [hreply, Reply.warning?]; rfl
  | failed e => simp [hreply, Reply.warning?]; rfl
  | timedOut => simp [hreply, Reply.warning?]; rfl

end Minutes

/-! ## The state of a chain -/

section State

variable {m : Type → Type} [Monad m] [MonadWarn m]
  (ask : Handler β → PreRequest → m (Reply PreOutcome)) (timeout : UInt64) (q : PreRequest)

/-- The chain of these handlers after the answers of others. -/
def preAfter (handlers : List (Handler β)) (done : List PreOutcome) : m PreOutcome :=
  pre ask timeout handlers (q.after done) (PreOutcome.lastArgs done).isSome
    (PreOutcome.firstAsk done)

theorem preAfter_nil {done : List PreOutcome} (hdone : PreOutcome.NoneDenies done) :
    preAfter ask timeout q [] done = pure (PreOutcome.ofAll done) := by
  rw [PreOutcome.ofAll_of_noneDenies hdone, preAfter, pre, allowed]
  cases hargs : PreOutcome.lastArgs done with
  | none => rfl
  | some arguments => simp [PreRequest.after, hargs]

/-- One more answer is one more in the state, unless it is a denial. -/
theorem preAfter_cons (h : Handler β) (rest : List (Handler β)) (done : List PreOutcome) :
    preAfter ask timeout q (h :: rest) done = (do
      match ← consult (ask · (q.after done)) timeout h with
      | none => preAfter ask timeout q rest done
      | some o =>
          if o.decision = .deny then pure ⟨.deny, o.reason, none⟩
          else preAfter ask timeout q rest (done ++ [o])) := by
  rw [preAfter, pre]
  congr 1
  funext answer
  cases answer with
  | none => rfl
  | some o =>
      have hargs : (PreOutcome.lastArgs (done ++ [o])).isSome =
          ((PreOutcome.lastArgs done).isSome || o.updatedArgs.isSome) := by
        rw [PreOutcome.lastArgs_append, PreOutcome.lastArgs_singleton, Option.isSome_or,
          Bool.or_comm]
      simp only [preAfter, hargs, PreRequest.after_append, PreRequest.after_singleton,
        PreOutcome.firstAsk_append]
      cases hdecision : o.decision with
      | deny => simp
      | ask => simp [PreOutcome.firstAsk_singleton_of_ask hdecision]
      | allow => simp [PreOutcome.firstAsk_singleton_of_allow hdecision]

end State

/-! ## The walk -/

section Walk

variable (reply : Handler β → PreRequest → Reply PreOutcome)

/-- The reply at each hearing is the handler's own. -/
theorem reply_of_mem_hearings (handlers : List (Handler β)) (q : PreRequest) :
    ∀ h ∈ hearings reply handlers q, h.reply = reply h.who h.request := by
  fun_induction hearings reply handlers q with
  | case1 q => exact fun h hh => absurd hh List.not_mem_nil
  | case2 k rest q hfailed ih => exact List.forall_mem_cons.mpr ⟨rfl, ih⟩
  | case3 k rest q o ho hdeny => exact List.forall_mem_singleton.mpr rfl
  | case4 k rest q o ho hdeny ih => exact List.forall_mem_cons.mpr ⟨rfl, ih⟩

theorem heardInTurn_hearings (handlers : List (Handler β)) (q : PreRequest) :
    HeardInTurn handlers q (hearings reply handlers q) := by
  fun_induction hearings reply handlers q with
  | case1 q => exact .nil q
  | case2 k rest q hfailed ih =>
      refine HeardInTurn.cons (h := ⟨k, q, reply k q⟩) (fun hdenies => ?_) ?_
      · obtain ⟨o, ho, -⟩ := hdenies
        exact absurd (hfailed.symm.trans ho) (by simp)
      · rwa [answers_singleton_of_failure hfailed]
  | case3 k rest q o ho hdeny => exact HeardInTurn.denied (h := ⟨k, q, reply k q⟩) ⟨o, ho, hdeny⟩
  | case4 k rest q o ho hdeny ih =>
      refine HeardInTurn.cons (h := ⟨k, q, reply k q⟩) (fun hdenies => ?_) ?_
      · obtain ⟨o', ho', hdeny'⟩ := hdenies
        cases ho.symm.trans ho'
        exact hdeny hdeny'
      · rwa [answers_singleton_of_answer ho]

/-- The first of the handlers is heard, and the chain goes on with its answer. -/
theorem preAfter_cons_minuting (timeout : UInt64) (q : PreRequest) (h : Handler β)
    (rest : List (Handler β)) (done : List PreOutcome)
    (m : Minutes (Handler β) PreRequest PreOutcome) :
    (preAfter (minuting reply) timeout q (h :: rest) done).run m =
      let heard : Hearing (Handler β) PreRequest PreOutcome :=
        ⟨h, q.after done, reply h (q.after done)⟩
      match heard.reply.answer? with
      | none => (preAfter (minuting reply) timeout q rest done).run (extend m timeout [heard])
      | some o =>
          if o.decision = .deny then (⟨.deny, o.reason, none⟩, extend m timeout [heard])
          else
            (preAfter (minuting reply) timeout q rest (done ++ [o])).run
              (extend m timeout [heard]) := by
  rw [preAfter_cons, StateT.run_bind, consult_minuting]
  dsimp only
  cases (reply h (q.after done)).answer? with
  | none => rfl
  | some o =>
      show StateT.run (if o.decision = .deny then _ else _) _ =
        if o.decision = .deny then _ else _
      by_cases hdeny : o.decision = .deny
      · rw [if_pos hdeny, if_pos hdeny]
        rfl
      · rw [if_neg hdeny, if_neg hdeny]

/-- After some answers the chain comes to what these and the answers of its handlers come to. -/
theorem preAfter_minuting (timeout : UInt64) (handlers : List (Handler β)) (q : PreRequest)
    {done : List PreOutcome} (hdone : PreOutcome.NoneDenies done)
    (m : Minutes (Handler β) PreRequest PreOutcome) :
    (preAfter (minuting reply) timeout q handlers done).run m =
      (PreOutcome.ofAll (done ++ answers (hearings reply handlers (q.after done))),
        extend m timeout (hearings reply handlers (q.after done))) := by
  generalize hq : q.after done = q'
  fun_induction hearings reply handlers q' generalizing done m with
  | case1 q' =>
      rw [preAfter_nil _ _ _ hdone, extend_nil]
      show (PreOutcome.ofAll done, m) = (PreOutcome.ofAll (done ++ []), m)
      rw [List.append_nil]
  | case2 k rest q' hfailed ih =>
      rw [preAfter_cons_minuting, hq, answers_cons, answers_singleton_of_failure hfailed,
        extend_cons]
      simp only [hfailed]
      exact ih hdone _ hq
  | case3 k rest q' o ho hdeny =>
      rw [preAfter_cons_minuting, hq, answers_singleton_of_answer ho,
        PreOutcome.ofAll_of_deny hdone hdeny]
      simp only [ho, if_pos hdeny]
  | case4 k rest q' o ho hdeny ih =>
      have hnext : q.after (done ++ [o]) = q'.after [o] := by
        rw [PreRequest.after_append, hq]
      rw [preAfter_cons_minuting, hq, answers_cons, answers_singleton_of_answer ho, extend_cons,
        ← List.append_assoc]
      simp only [ho, if_neg hdeny]
      exact ih (hdone.snoc hdeny) _ hnext

/-! ## Handlers that do not answer -/

/-- The walk without handlers that are not heard or do not answer is the walk with them, less their
hearings. -/
theorem hearings_filter {keep : Handler β → Bool} {handlers : List (Handler β)} {q : PreRequest}
    (hkeep : ∀ h ∈ hearings reply handlers q, keep h.who = false → h.reply.answer? = none) :
    hearings reply (handlers.filter keep) q =
      (hearings reply handlers q).filter fun h => keep h.who := by
  have hanswered : ∀ {h : Hearing (Handler β) PreRequest PreOutcome} {o : PreOutcome},
      h.reply.answer? = some o → (keep h.who = false → h.reply.answer? = none) →
      keep h.who = true := by
    intro h o ho hnone
    cases hk : keep h.who with
    | true => rfl
    | false => exact absurd (ho.symm.trans (hnone hk)) (by simp)
  fun_induction hearings reply handlers q with
  | case1 q => rfl
  | case2 k rest q hfailed ih =>
      have hrest := ih fun h hh => hkeep h (List.mem_cons_of_mem _ hh)
      cases hk : keep k with
      | true => simp only [List.filter_cons, hk, if_true, ← hrest, hearings, hfailed]
      | false => simp only [List.filter_cons, hk, Bool.false_eq_true, if_false, hrest]
  | case3 k rest q o ho hdeny =>
      have hk : keep k = true :=
        hanswered (h := ⟨k, q, reply k q⟩) ho (hkeep _ List.mem_cons_self)
      simp only [List.filter_cons, hk, if_true, List.filter_nil, hearings, ho, if_pos hdeny]
  | case4 k rest q o ho hdeny ih =>
      have hk : keep k = true :=
        hanswered (h := ⟨k, q, reply k q⟩) ho (hkeep _ List.mem_cons_self)
      have hrest := ih fun h hh => hkeep h (List.mem_cons_of_mem _ hh)
      simp only [List.filter_cons, hk, if_true, ← hrest, hearings, ho, if_neg hdeny]

end Walk

end Chain

namespace HookRegistry

variable {β γ : Type}

theorem runPre_minuting (r : HookRegistry β γ) (reply : Handler β → PreRequest → Reply PreOutcome)
    (timeout : UInt64) (q : PreRequest) :
    (r.runPre (minuting reply) timeout q).run ⟨[], []⟩ =
      (PreOutcome.ofAll (answers (Chain.hearings reply (r.preFor q.toolName) q)),
        ⟨Chain.hearings reply (r.preFor q.toolName) q,
          Chain.warningsOf timeout (Chain.hearings reply (r.preFor q.toolName) q)⟩) :=
  Chain.preAfter_minuting reply timeout (r.preFor q.toolName) q PreOutcome.noneDenies_nil ⟨[], []⟩

/-- Handlers that failed can be removed: their hearings are missing then, and nothing else. -/
theorem runPre_unregister (r : HookRegistry β γ)
    (reply : Handler β → PreRequest → Reply PreOutcome) (timeout : UInt64) (q : PreRequest)
    (names : List String)
    (hfailed : ∀ h ∈ Chain.hearings reply (r.preFor q.toolName) q,
      decide (h.who.name ∉ names) = false → h.reply.answer? = none) :
    ((names.foldl unregister r).runPre (minuting reply) timeout q).run ⟨[], []⟩ =
      let log := Chain.hearings reply (r.preFor q.toolName) q
      let heard := log.filter fun h => h.who.name ∉ names
      (PreOutcome.ofAll (answers log), ⟨heard, Chain.warningsOf timeout heard⟩) := by
  have hwalk : Chain.hearings reply ((r.preFor q.toolName).filter fun h => h.name ∉ names) q =
      (Chain.hearings reply (r.preFor q.toolName) q).filter fun h => h.who.name ∉ names :=
    Chain.hearings_filter reply hfailed
  rw [runPre_minuting, preFor_unregister, hwalk, answers_filter hfailed]

/-- A name stands for one handler, which is heard once. So where each of the names is that of a
handler that failed, nobody of such a name gave an answer. -/
theorem failed_of_named {δ ρ α : Type} {handlers : List (Handler δ)}
    {log : List (Hearing (Handler δ) ρ α)} (horder : Handler.InOrder handlers)
    (hheard : (log.map Hearing.who).Sublist handlers) {names : List String}
    (hnames : ∀ name ∈ names, ∃ h ∈ log, h.who.name = name ∧ h.reply.answer? = none) :
    ∀ h ∈ log, decide (h.who.name ∉ names) = false → h.reply.answer? = none := by
  have hdistinct : (log.map fun h => h.who.name).Nodup := by
    have hnamed := hheard.map Handler.name
    rw [List.map_map] at hnamed
    exact horder.distinct.sublist hnamed
  intro h hh hremoved
  have hname : h.who.name ∈ names := Classical.not_not.mp (of_decide_eq_false hremoved)
  obtain ⟨k, hk, heq, hnone⟩ := hnames h.who.name hname
  rwa [← List.inj_on_of_nodup_map hdistinct hk hh heq]

theorem failed_of_mem_names {handlers : List (Handler β)} {q : PreRequest}
    {log : List (Hearing (Handler β) PreRequest PreOutcome)} (horder : Handler.InOrder handlers)
    (hlog : HeardInTurn handlers q log) {names : List String}
    (hnames : ∀ name ∈ names, ∃ h ∈ log, h.who.name = name ∧ h.reply.answer? = none) :
    ∀ h ∈ log, decide (h.who.name ∉ names) = false → h.reply.answer? = none :=
  failed_of_named horder hlog.inTurn.sublist hnames

/-- **A chain hears its handlers in turn, up to the first denial, and fails open.** Whatever was
registered and removed before, and however each handler replies to what it is shown: a run for a
call hears the standing handlers that accept its tool, in run order. It comes to what the answers
come to: to the first denial with its reason and no arguments, or else to the first question with
its reason, or to allowing the call, both with the arguments that were given last. And it comes to
the same if any of the handlers that failed or took too long are removed from the registry; only
their hearings are missing then. -/
theorem runPre_hears_in_turn_and_fails_open (changes : List (Change β γ))
    (reply : Handler β → PreRequest → Reply PreOutcome) (timeout : UInt64) (q : PreRequest) :
    let handlers := (after changes).preFor q.toolName
    Handler.RunOrder ((standingPre changes).filter fun h => h.accepts q.toolName) handlers ∧
    Handler.InOrder handlers ∧
    ∃ log : List (Hearing (Handler β) PreRequest PreOutcome),
      HeardInTurn handlers q log ∧
      (∀ h ∈ log, h.reply = reply h.who h.request) ∧
      ((after changes).runPre (minuting reply) timeout q).run ⟨[], []⟩ =
        (PreOutcome.ofAll (answers log), ⟨log, Chain.warningsOf timeout log⟩) ∧
      ∀ names : List String,
        (∀ name ∈ names, ∃ h ∈ log, h.who.name = name ∧ h.reply.answer? = none) →
        ((names.foldl unregister (after changes)).runPre (minuting reply) timeout q).run ⟨[], []⟩ =
          (PreOutcome.ofAll (answers log),
            let heard := log.filter fun h => h.who.name ∉ names
            ⟨heard, Chain.warningsOf timeout heard⟩) := by
  intro handlers
  have horder := inOrder_preFor changes q.toolName
  have hheard := Chain.heardInTurn_hearings reply handlers q
  refine ⟨runOrder_preFor changes q.toolName, horder, _, hheard,
    Chain.reply_of_mem_hearings reply _ q, runPre_minuting _ reply timeout q, ?_⟩
  intro names hnames
  exact runPre_unregister _ reply timeout q names (failed_of_mem_names horder hheard hnames)

/-- A handler takes too long on the arguments that another one gave, where it would have denied the
call with those it came with. The chain goes on without it. -/
example :
    let safe := Object.empty.insert "path" (.string "safe.txt")
    let handler (name : String) (reply : PreRequest → Reply PreOutcome) :
        Handler (PreRequest → Reply PreOutcome) := ⟨name, 0, none, fun _ => true, reply⟩
    let registry : HookRegistry (PreRequest → Reply PreOutcome) Unit := after
      [.registerPre (handler "rewriter" fun _ => .answered (.allowWith safe)),
        .registerPre (handler "picky" fun q =>
          if q.arguments = safe then .timedOut else .answered (.deny "no")),
        .registerPre (handler "asker" fun _ => .answered (.ask "sure?"))]
    let run := (registry.runPre (minuting Handler.behaviour) 100
      ⟨⟨"s"⟩, "read", .empty, ⟨"c"⟩⟩).run ⟨[], []⟩
    run.1 = ⟨.ask, some "sure?", some safe⟩ ∧ run.2.warnings = [.handlerTimedOut "picky" 100] := by
  cbv

end HookRegistry

end AgentSessions
