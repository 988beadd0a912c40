import AgentSessions.Engine.Call
import AgentSessions.Proofs.Dialogue.Paths
import AgentSessions.Proofs.Hook.PostChain

/-!
# Reviewing the result of a tool

When a tool has run to its end, the reviews are applied to its result one after another. The paths
through this part of a call are known exactly: each review is shown what those before it left of the
result (`reviewing`), and what the engine goes on with is what all of them left
(`PostOutcome.applyAll`).

A registry of hooks is one of these reviews. So there are two chains, one in the other, and they
treat feedback differently: the reviews of an engine add theirs to the result one by one, where the
next one may replace it, and the handlers of a registry have theirs collected and added once, behind
the result that was given last.
-/

set_option autoImplicit false

namespace AgentSessions

open Json (Object)
open Engine (Ask)

/-- The result as these answers leave it, each applied to what the one before it left. -/
def PostOutcome.applyAll (os : List PostOutcome) (result : ToolOutcome) : ToolOutcome :=
  os.foldl (fun result o => o.apply result) result

namespace Engine

open Dialogue (leads_ask_iff leads_bind_iff leads_done_iff)

/-- The exchanges in which reviews, numbered from `n` on, give these answers. Each is shown what the
answers before left of the result. -/
def reviewing (q : PostRequest) (n : Nat) (os : List PostOutcome) : List Exchange :=
  os.mapIdx fun i o =>
    ⟨.review (n + i) { q with result := PostOutcome.applyAll (os.take i) q.result }, o⟩

theorem reviewing_cons (q : PostRequest) (n : Nat) (o : PostOutcome) (os : List PostOutcome) :
    reviewing q n (o :: os) =
      ⟨.review n q, o⟩ :: reviewing { q with result := o.apply q.result } (n + 1) os := by
  rw [reviewing, List.mapIdx_cons, reviewing]
  congr 2
  funext i o'
  rw [Nat.add_assoc, Nat.add_comm 1 i]
  rfl

/-- The paths through reviews: all answers are possible, and the result is what they leave. -/
theorem leads_review_iff {q : PostRequest} {n count : Nat} {trace : List Exchange}
    {r : ToolOutcome} :
    (review ((List.range' n count).map fun i request => Dialogue.put (.review i request)) q).Leads
        trace (.done r) ↔
      ∃ os : List PostOutcome, os.length = count ∧ trace = reviewing q n os ∧
        r = PostOutcome.applyAll os q.result := by
  induction count generalizing q n trace with
  | zero =>
      refine leads_done_iff.trans ⟨?_, ?_⟩
      · rintro ⟨rfl, rfl⟩
        exact ⟨[], rfl, rfl, rfl⟩
      · rintro ⟨os, hlength, rfl, rfl⟩
        rw [List.length_eq_zero_iff.mp hlength]
        exact ⟨rfl, rfl⟩
  | succ count ih =>
      refine leads_ask_iff.trans ⟨?_, ?_⟩
      · rintro ⟨o, rest, rfl, hrest⟩
        obtain ⟨os, hlength, rfl, rfl⟩ :=
          (ih (q := { q with result := o.apply q.result }) (n := n + 1)).mp hrest
        exact ⟨o :: os, congrArg (· + 1) hlength, (reviewing_cons q n o os).symm, rfl⟩
      · rintro ⟨os, hlength, rfl, rfl⟩
        obtain ⟨o, os, rfl⟩ := List.exists_cons_of_length_eq_add_one hlength
        refine ⟨o, _, reviewing_cons q n o os, ?_⟩
        exact (ih (q := { q with result := o.apply q.result }) (n := n + 1)).mpr
          ⟨os, Nat.succ.inj hlength, rfl, rfl⟩

theorem postChecks_eq (setup : Setup) :
    setup.postChecks =
      (List.range' 0 setup.reviews).map fun i request => Dialogue.put (.review i request) := by
  rw [Setup.postChecks, List.range_eq_range']

/-- The paths through the run of a tool: it is cut short, or its result is reviewed. -/
theorem leads_execute_iff {setup : Setup} {session : SessionId} {call : ToolCall}
    {arguments : Object} {trace : List Exchange} {r : Option ToolOutcome} :
    (execute setup session call arguments).Leads trace (.done r) ↔
      (trace = [⟨.execute call.name arguments call.id, none⟩] ∧ r = none) ∨
      ∃ (result : ToolOutcome) (os : List PostOutcome), os.length = setup.reviews ∧
        trace = ⟨.execute call.name arguments call.id, some result⟩ ::
          reviewing ⟨session, call.name, arguments, call.id, result⟩ 0 os ∧
        r = some (PostOutcome.applyAll os result) := by
  refine leads_ask_iff.trans ⟨?_, ?_⟩
  · rintro ⟨answer, rest, rfl, hrest⟩
    cases answer with
    | none =>
        obtain ⟨rfl, rfl⟩ := leads_done_iff.mp hrest
        exact .inl ⟨rfl, rfl⟩
    | some result =>
        have hpath : (review setup.postChecks ⟨session, call.name, arguments, call.id, result⟩ >>=
            fun reviewed => .done (some reviewed)).Leads rest (.done r) := hrest
        obtain ⟨first, reviewed, last, rfl, hreview, hlast⟩ := leads_bind_iff.mp hpath
        obtain ⟨rfl, rfl⟩ := leads_done_iff.mp hlast
        rw [postChecks_eq] at hreview
        obtain ⟨os, hlength, rfl, rfl⟩ := leads_review_iff.mp hreview
        exact .inr ⟨result, os, hlength, by rw [List.append_nil], rfl⟩
  · rintro (⟨rfl, rfl⟩ | ⟨result, os, hlength, rfl, rfl⟩)
    · exact ⟨none, [], rfl, .here _⟩
    · refine ⟨some result, _, rfl, ?_⟩
      have hreview := leads_review_iff.mpr
        ⟨os, hlength, rfl (a := reviewing ⟨session, call.name, arguments, call.id, result⟩ 0 os),
          rfl⟩
      rw [← postChecks_eq] at hreview
      have hpath : (review setup.postChecks ⟨session, call.name, arguments, call.id, result⟩ >>=
          fun reviewed => .done (some reviewed)).Leads _ (.done _) :=
        leads_bind_iff.mpr ⟨_, _, [], (List.append_nil _).symm, hreview, .here _⟩
      exact hpath

variable {β γ : Type}

/-- **Results are reviewed in turn, and hooks lose no feedback.** Whatever handlers were registered
and removed before and however each replies to what it is shown, all standing ones that accept a
tool are heard on its result, in run order, each with the result that was given last before it. They
come to the result that was given last of all and to all feedback in one text; and they come to the
same if any of those that failed or took too long are removed. An engine applies its reviews to what
the tool gave one by one, each to what it was shown. And where the only review is a registry of
hooks, every piece of feedback stands in the content that the engine goes on with, whoever gave
another result after it. -/
theorem results_are_reviewed_in_turn (changes : List (HookRegistry.Change β γ))
    (reply : Handler γ → PostRequest → Reply PostOutcome) (timeout : UInt64) :
    let hooks := HookRegistry.after changes
    (∀ q : PostRequest,
      let run := hooks.reviewed reply timeout q
      let os := answers run.2.hearings
      Handler.RunOrder ((HookRegistry.standingPost changes).filter fun h => h.accepts q.toolName)
        (hooks.postFor q.toolName) ∧
      Handler.InOrder (hooks.postFor q.toolName) ∧
      AllHeard (hooks.postFor q.toolName) q run.2.hearings ∧
      (∀ h ∈ run.2.hearings, h.reply = reply h.who h.request) ∧
      run.1.updatedResult = (os.filterMap PostOutcome.updatedResult).getLast? ∧
      run.1.feedback = (if os.filterMap PostOutcome.feedback = [] then none
        else some ("\n".intercalate (os.filterMap PostOutcome.feedback))) ∧
      run.2.warnings = Chain.warningsOf timeout run.2.hearings ∧
      ∀ names : List String,
        (∀ name ∈ names, ∃ h ∈ run.2.hearings, h.who.name = name ∧ h.reply.answer? = none) →
        (names.foldl HookRegistry.unregister hooks).reviewed reply timeout q =
          let heard := run.2.hearings.filter fun h => h.who.name ∉ names
          (run.1, ⟨heard, Chain.warningsOf timeout heard⟩)) ∧
    (∀ (setup : Setup) (session : SessionId) (call : ToolCall) (arguments : Object)
      (trace : List Exchange) (r : Option ToolOutcome),
      (execute setup session call arguments).Leads trace (.done r) ↔
        (trace = [⟨.execute call.name arguments call.id, none⟩] ∧ r = none) ∨
        ∃ (result : ToolOutcome) (os : List PostOutcome), os.length = setup.reviews ∧
          trace = ⟨.execute call.name arguments call.id, some result⟩ ::
            reviewing ⟨session, call.name, arguments, call.id, result⟩ 0 os ∧
          r = some (os.foldl (fun result o => o.apply result) result)) ∧
    ∀ (setup : Setup) (session : SessionId) (call : ToolCall) (arguments : Object)
      (trace : List Exchange) (r : ToolOutcome), setup.reviews = 1 →
      (execute setup session call arguments).Leads trace (.done (some r)) →
      (∀ n q o, ⟨.review n q, o⟩ ∈ trace → o = (hooks.reviewed reply timeout q).1) →
      ∃ result, ⟨.execute call.name arguments call.id, some result⟩ ∈ trace ∧
        let run := hooks.reviewed reply timeout ⟨session, call.name, arguments, call.id, result⟩
        r = run.1.apply result ∧
        ∀ h ∈ run.2.hearings, ∀ o note, h.reply.answer? = some o → o.feedback = some note →
          StandsIn note r.content := by
  intro hooks
  refine ⟨fun q => ?_, fun _ _ _ _ _ _ => leads_execute_iff, ?_⟩
  · intro run os
    obtain ⟨hheard, hreply, houtcome, hwarned⟩ := hooks.reviewed_spec reply timeout q
    refine ⟨HookRegistry.runOrder_postFor changes q.toolName,
      HookRegistry.inOrder_postFor changes q.toolName, hheard, hreply, ?_, ?_, hwarned,
      fun names hnames => HookRegistry.reviewed_unregister reply timeout q changes hnames⟩
    · exact congrArg PostOutcome.updatedResult houtcome
    · refine (congrArg PostOutcome.feedback houtcome).trans ?_
      exact if_congr List.isEmpty_iff rfl rfl
  -- with one review there is one answer, and it is what the registry came to
  · intro setup session call arguments trace r hone hpath hhooks
    obtain ⟨-, hnone⟩ | ⟨result, os, hlength, rfl, hr⟩ := leads_execute_iff.mp hpath
    · cases hnone
    · obtain ⟨o, rfl⟩ := List.length_eq_one_iff.mp (hlength.trans hone)
      cases hr
      refine ⟨result, List.mem_cons_self, ?_⟩
      intro run
      have ho : o = run.1 := by
        refine hhooks 0 _ o (List.mem_cons_of_mem _ ?_)
        rw [reviewing_cons]
        exact List.mem_cons_self
      obtain ⟨-, -, houtcome, -⟩ :=
        hooks.reviewed_spec reply timeout ⟨session, call.name, arguments, call.id, result⟩
      subst ho
      refine ⟨rfl, fun h hh o note hanswer hnote => ?_⟩
      have hmem : o ∈ answers run.2.hearings := List.mem_filterMap.mpr ⟨h, hh, hanswer⟩
      show StandsIn note (run.1.apply result).content
      rw [show run.1 = PostOutcome.ofAll (answers run.2.hearings) from houtcome]
      exact standsIn_apply_ofAll hmem hnote result

/-- One has something to say, one gives another result, one takes too long, one is interested in
another tool, and one says whether the result is better. -/
def critics : List (Handler (PostRequest → Reply PostOutcome)) :=
  [⟨"reader", 0, none, fun _ => true, fun _ => .answered (.note "too short")⟩,
    ⟨"editor", 0, none, fun _ => true, fun _ => .answered (.replace (.ok "edited"))⟩,
    ⟨"sleeper", 0, none, fun _ => true, fun _ => .timedOut⟩,
    ⟨"clerk", 0, none, fun tool => tool == "file", fun _ => .answered (.note "filed")⟩,
    ⟨"rereader", 0, none, fun _ => true, fun q =>
      .answered (.note (if q.result = .ok "edited" then "better" else "no better"))⟩]

/-- The critics, registered one after another. -/
def criticHooks : HookRegistry Unit (PostRequest → Reply PostOutcome) :=
  .after (critics.map .registerPost)

/-- What the tool gives before it is reviewed. -/
def uncriticized : PostRequest := ⟨⟨"s"⟩, "look", .empty, ⟨"a"⟩, .ok "found"⟩

/-- The result of a tool is replaced, with feedback on it before and after. -/
def criticized : List Exchange :=
  [⟨.execute "look" .empty ⟨"a"⟩, some (.ok "found")⟩,
    ⟨.review 0 uncriticized, ⟨some (.ok "edited"), some "too short\nbetter"⟩⟩]

/-- The critics in the registry are heard on a result. -/
theorem reviewed_criticHooks (q : PostRequest) :
    criticHooks.reviewed Handler.behaviour 100 q =
      let log := Chain.postHearings Handler.behaviour
        (critics.filter fun h => h.accepts q.toolName) q
      (PostOutcome.ofAll (answers log), ⟨log, Chain.warningsOf 100 log⟩) := by
  have horder : Handler.InOrder critics := ⟨by decide, by decide⟩
  rw [HookRegistry.reviewed_eq, HookRegistry.postFor, criticHooks,
    HookRegistry.post_after_of_inOrder horder]

/-- Four of the critics are heard on a result, two of them with the one that the editor gave. The
one who takes too long is warned of, and might as well not be registered. -/
theorem results_are_reviewed_in_turn_by_critics :
    let run := criticHooks.reviewed Handler.behaviour 100 uncriticized
    (run.2.hearings.map fun h => (h.who.name, h.request.result.content)) =
        [("reader", "found"), ("editor", "found"), ("sleeper", "edited"), ("rereader", "edited")] ∧
      run.1 = ⟨some (.ok "edited"), some "too short\nbetter"⟩ ∧
      run.2.warnings = [.handlerTimedOut "sleeper" 100] ∧
      ((criticHooks.unregister "sleeper").reviewed Handler.behaviour 100 uncriticized).1 =
        run.1 ∧
      (execute { Setup.plain with reviews := 1 } ⟨"s"⟩ (look "a") .empty).Leads criticized
        (.done (some (.ok "edited\n\ntoo short\nbetter"))) ∧
      StandsIn "too short" "edited\n\ntoo short\nbetter" := by
  intro run
  have hrun := reviewed_criticHooks uncriticized
  have hpath : (execute { Setup.plain with reviews := 1 } ⟨"s"⟩ (look "a") .empty).Leads criticized
      (.done (some (.ok "edited\n\ntoo short\nbetter"))) := .on _ (.on _ (.here _))
  have hhooks : ∀ n q o, ⟨.review n q, o⟩ ∈ criticized →
      o = (criticHooks.reviewed Handler.behaviour 100 q).1 := by
    intro n q o hmem
    obtain hexecute | hreview := List.mem_pair.mp hmem
    · cases hexecute
    · cases hreview
      rw [reviewed_criticHooks]
      rfl
  have hspec := results_are_reviewed_in_turn (critics.map (.registerPost (β := Unit)))
    Handler.behaviour 100
  rw [← criticHooks] at hspec
  obtain ⟨hreviewed, -, hengine⟩ := hspec
  obtain ⟨-, -, -, -, -, -, hwarned, hremoved⟩ := hreviewed uncriticized
  obtain ⟨result, -, -, hnotes⟩ := hengine _ _ _ _ _ _ rfl hpath hhooks
  have hheard : run.2.hearings = Chain.postHearings Handler.behaviour
      (critics.filter fun h => h.accepts "look") uncriticized :=
    congrArg (fun run => run.2.hearings) hrun
  have hsleeper : ∀ name ∈ ["sleeper"], ∃ h ∈ run.2.hearings,
      h.who.name = name ∧ h.reply.answer? = none := by
    rw [List.forall_mem_singleton, hheard]
    exact ⟨_, List.mem_cons_of_mem _ (List.mem_cons_of_mem _ List.mem_cons_self), rfl, rfl⟩
  refine ⟨?_, congrArg Prod.fst hrun, ?_, ?_, hpath, ?_⟩
  · rw [hheard]
    rfl
  · refine Eq.trans hwarned ?_
    rw [hheard]
    rfl
  · have hwithout := congrArg Prod.fst (hremoved ["sleeper"] hsleeper)
    exact hwithout
  · rw [reviewed_criticHooks] at hnotes
    exact hnotes _ List.mem_cons_self _ "too short" rfl rfl

end Engine

end AgentSessions
