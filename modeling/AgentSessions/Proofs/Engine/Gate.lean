import AgentSessions.Proofs.Check.Judgement
import AgentSessions.Proofs.Engine.Asides

/-!
# The gate in front of the tools

A tool is started in one place only, and on every path there stands before it a whole judgement that
lets the call pass, and nothing else but the report that the tool starts. So no tool runs before the
checks and the one who confirms were heard, none runs when its quota is used up, and the arguments
that it gets are those of the verdict.

What a judgement that lets a call pass looks like is said by `Permission.Judges`: it is a statement
on every path through `Permission.judge`.
-/

set_option autoImplicit false

namespace AgentSessions

open Json (Object)
open Engine (Ask)

/-- The tool that is started, with its arguments. -/
def Exchange.started? : Exchange → Option (String × Object × CallId)
  | ⟨.execute tool arguments call, _⟩ => some (tool, arguments, call)
  | _ => none

namespace Engine

open Dialogue (calm_pure calm_put keeps_bind keeps_iff keeps_put_bind)

theorem overlooks_started? : Overlooks Exchange.started? := by
  intro question answer haside
  cases question with
  | execute => cases haside
  | _ => rfl

theorem calm_settle (call : ToolCall) (arguments : Object) (s : Settlement) (st : RunState) :
    (settle call arguments s st).Calm Exchange.started? fun _ => True := by
  refine (calm_now overlooks_started?).bind fun now _ => ?_
  have hreport : (Dialogue.report (.toolEnd call.id.text call.name s.outcome)).Calm
      Exchange.started? fun _ => True := calm_put fun _ => rfl
  exact hreport.bind fun _ _ => calm_pure trivial

/-- The tools that are started in these exchanges. -/
def started (trace : List Exchange) : List (String × Object × CallId) :=
  trace.filterMap Exchange.started?

/-- What happens to a call after the verdict on it. -/
inductive Enacts (setup : Setup) (call : ToolCall) (st : RunState) :
    Verdict → List Exchange → Prop where
  /-- A call that is refused starts no tool. -/
  | refused {reason : String} {arguments : Object} {later : List Exchange} :
      started later = [] → Enacts setup call st (.deny reason arguments) later
  /-- Neither does a call that its quota stands against. -/
  | overQuota {arguments : Object} {exceeded : QuotaExceeded} {later : List Exchange} :
      st.session.counts.checkWith call.name setup.settings = some exceeded →
      started later = [] → Enacts setup call st (.proceed arguments) later
  /-- Any other starts its tool at once, with the arguments of the verdict, and no tool after it. -/
  | runs {arguments : Object} (answer : Option ToolOutcome) {rest : List Exchange} :
      st.session.counts.checkWith call.name setup.settings = none → started rest = [] →
      Enacts setup call st (.proceed arguments)
        (⟨.report (.toolStart call.id.text call.name), ()⟩ ::
          ⟨.execute call.name arguments call.id, answer⟩ :: rest)

theorem keeps_runTool (setup : Setup) (call : ToolCall) (arguments : Object) (st : RunState)
    (hroom : st.session.counts.checkWith call.name setup.settings = none) :
    (runTool setup call arguments st).Keeps fun later _ =>
      Enacts setup call st (.proceed arguments) later := by
  have hsettle : ∀ (s : Settlement) (st' : RunState) (outcome : CallOutcome),
      (do
        let st ← settle call arguments s st'
        pure (outcome, st)).Calm Exchange.started? fun _ => True :=
    fun s st' outcome => (calm_settle call arguments s st').bind fun _ _ => calm_pure trivial
  -- the report, then the question to the tool; all that comes after the answer is calm
  refine keeps_put_bind.mpr fun _ => ?_
  rw [execute, bind_assoc]
  refine keeps_put_bind.mpr fun answer => ?_
  refine Dialogue.Keeps.mono (P := fun rest _ => started rest = [] ∧ True) ?_
    fun rest _ hrest => .runs answer hroom hrest.1
  cases answer with
  | none => exact hsettle .interrupted st .cancelled
  | some result =>
      have hreview := calm_review overlooks_started?.opinions setup
        ⟨st.session.id, call.name, arguments, call.id, result⟩
      rw [bind_assoc]
      exact hreview.bind fun reviewed _ => hsettle (.ran reviewed) _ _

/-- On every path through a call there is a judgement first, and then its verdict is enacted. -/
theorem handle_leads {setup : Setup} {call : ToolCall} {st : RunState} {trace : List Exchange}
    {result : CallOutcome × RunState} (h : (handle setup call st).Leads trace (.done result)) :
    ∃ judged verdict later, trace = judged ++ later ∧
      (Permission.judge setup.preChecks setup.confirmer st.session.id call).Leads judged
        (.done verdict) ∧
      started judged = [] ∧ Enacts setup call st verdict later := by
  suffices hkeeps : (handle setup call st).Keeps fun trace _ =>
      ∃ judged verdict later, trace = judged ++ later ∧
        (Permission.judge setup.preChecks setup.confirmer st.session.id call).Leads judged
          (.done verdict) ∧
        started judged = [] ∧ Enacts setup call st verdict later from
    keeps_iff.mp hkeeps trace result h
  -- the judgement starts no tool, so what the verdict leads to is all there is to look at
  refine keeps_bind.mpr (keeps_iff.mpr fun judged verdict hjudge => ?_)
  have hcalm := calm_judge overlooks_started?.opinions setup st.session.id call
  refine Dialogue.Keeps.mono (P := fun later _ => Enacts setup call st verdict later) ?_
    fun later _ henacts => ⟨judged, verdict, later, rfl, hjudge, (hcalm.of_leads hjudge).1, henacts⟩
  cases verdict with
  | deny reason arguments =>
      refine Dialogue.Keeps.mono (P := fun later _ => started later = [] ∧ True) ?_
        fun later _ hlater => .refused hlater.1
      exact (calm_settle call arguments (.denied reason) st).bind fun _ _ => calm_pure trivial
  | proceed arguments =>
      dsimp only
      cases hroom : st.session.counts.checkWith call.name setup.settings with
      | none => exact keeps_runTool setup call arguments st hroom
      | some exceeded =>
          have hreport : (Dialogue.report (.quotaExceeded call.name exceeded.limit)).Calm
              Exchange.started? fun _ => True := calm_put fun _ => rfl
          refine Dialogue.Keeps.mono (P := fun later _ => started later = [] ∧ True) ?_
            fun later _ hlater => .overQuota hroom hlater.1
          refine hreport.bind fun _ _ => ?_
          exact (calm_settle call arguments (.overQuota call.name exceeded) st).bind
            fun _ _ => calm_pure trivial

/-! ## Starts of tools -/

theorem not_mem_of_started_eq_nil {trace : List Exchange} (h : started trace = []) {x : Exchange}
    (hx : x.started?.isSome = true) : x ∉ trace := by
  intro hmem
  rw [List.filterMap_eq_nil_iff.mp h x hmem] at hx
  cases hx

theorem started_eq_nil_of_append {trace more : List Exchange} (h : started (trace ++ more) = []) :
    started trace = [] :=
  (List.append_eq_nil_iff.mp (List.filterMap_append.symm.trans h)).1

/-- Where a tool is started once only, the place of its start is known. -/
theorem eq_of_started_once {before rest before' rest' : List Exchange} {x y : Exchange}
    (heq : before ++ x :: rest = before' ++ y :: rest') (hx : x.started?.isSome = true)
    (hbefore : started before' = []) (hrest : started rest' = []) :
    before = before' ∧ x = y ∧ rest = rest' := by
  obtain ⟨between, hbefore', htail⟩ | ⟨between, rfl, htail⟩ := List.append_eq_append_iff.mp heq
  · cases between with
    | nil =>
        rw [List.append_nil] at hbefore'
        exact ⟨hbefore'.symm, (List.cons.inj htail).1, (List.cons.inj htail).2⟩
    | cons z between =>
        -- then `x` would stand among those before `y`
        have hmem : x ∈ before' := by
          rw [hbefore', (List.cons.inj htail).1]
          exact List.mem_append_right _ List.mem_cons_self
        exact absurd hmem (not_mem_of_started_eq_nil hbefore hx)
  · cases between with
    | nil => exact ⟨List.append_nil _, (List.cons.inj htail).1.symm, (List.cons.inj htail).2.symm⟩
    | cons z between =>
        have hmem : x ∈ rest' := by
          rw [(List.cons.inj htail).2]
          exact List.mem_append_right _ List.mem_cons_self
        exact absurd hmem (not_mem_of_started_eq_nil hrest hx)

/-- **Tools run on permission alone.** On every path through a judgement, for any checks and any one
who confirms, the checks are heard in turn up to the first denial, and the verdict is the ruling on
what was answered. Every call that is looked at is judged first, and what happens to it then is up
to the verdict and the quota. And wherever a tool is started, though the path may be cut short, a
whole judgement stands before it that let the call pass with just these arguments, the quota had
room, and no other tool is started for the call. -/
theorem tools_run_on_permission_alone :
    (∀ (checks : List (PreRequest → Dialogue PreOutcome))
      (confirm : Option (ConfirmationRequest → Dialogue (Except HookError Bool)))
      (session : SessionId) (call : ToolCall) (trace : List Exchange) (verdict : Verdict),
      (Permission.judge checks confirm session call).Leads trace (.done verdict) →
      Permission.Judges checks confirm session call trace verdict) ∧
    (∀ (setup : Setup) (call : ToolCall) (st : RunState) (trace : List Exchange)
      (result : CallOutcome × RunState), (handle setup call st).Leads trace (.done result) →
      ∃ judged verdict later, trace = judged ++ later ∧
        Permission.Judges setup.preChecks setup.confirmer st.session.id call judged verdict ∧
        started judged = [] ∧ Enacts setup call st verdict later) ∧
    ∀ (setup : Setup) (call : ToolCall) (st : RunState) (trace : List Exchange)
      (e : Dialogue (CallOutcome × RunState)), (handle setup call st).Leads trace e →
      ∀ before tool arguments id answer rest,
        trace = before ++ ⟨.execute tool arguments id, answer⟩ :: rest →
        ∃ judged,
          Permission.Judges setup.preChecks setup.confirmer st.session.id call judged
            (.proceed arguments) ∧
          before = judged ++ [⟨.report (.toolStart call.id.text call.name), ()⟩] ∧
          st.session.counts.checkWith call.name setup.settings = none ∧
          tool = call.name ∧ id = call.id ∧ started rest = [] := by
  refine ⟨fun _ _ _ _ _ _ h => Permission.judges_of_leads h, ?_, ?_⟩
  · intro setup call st trace result h
    obtain ⟨judged, verdict, later, rfl, hjudge, hcalm, henacts⟩ := handle_leads h
    exact ⟨judged, verdict, later, rfl, Permission.judges_of_leads hjudge, hcalm, henacts⟩
  · intro setup call st trace e h before tool arguments id answer rest htrace
    -- a path that is cut short is followed to an end
    obtain ⟨more, result, hmore⟩ := e.leads_done
    obtain ⟨judged, verdict, later, hwhole, hjudge, hcalm, henacts⟩ := handle_leads (h.trans hmore)
    have hsplit : before ++ ⟨.execute tool arguments id, answer⟩ :: (rest ++ more) =
        judged ++ later := by
      rw [← hwhole, htrace, List.append_assoc, List.cons_append]
    have hstart : (⟨.execute tool arguments id, answer⟩ : Exchange) ∈ judged ++ later := by
      rw [← hsplit]
      exact List.mem_append_right _ List.mem_cons_self
    have hnot : started later ≠ [] := by
      intro hlater
      obtain hmem | hmem := List.mem_append.mp hstart
      · exact not_mem_of_started_eq_nil hcalm rfl hmem
      · exact not_mem_of_started_eq_nil hlater rfl hmem
    cases henacts with
    | refused hlater => exact absurd hlater hnot
    | overQuota _ hlater => exact absurd hlater hnot
    | runs answer' hroom hrest =>
        rw [List.append_cons judged] at hsplit
        have hbefore : started
            (judged ++ [⟨.report (.toolStart call.id.text call.name), ()⟩]) = [] := by
          rw [started, List.filterMap_append, ← started, hcalm]
          rfl
        obtain ⟨rfl, hsame, htail⟩ := eq_of_started_once hsplit rfl hbefore hrest
        cases hsame
        rw [← htail] at hrest
        exact ⟨judged, Permission.judges_of_leads hjudge, rfl, hroom, rfl, rfl,
          started_eq_nil_of_append hrest⟩

/-- One check gives other arguments, the next one asks, and the call is confirmed. -/
def permitting : Nat → (question : Ask) → question.Answer
  | _, .check 0 _ => .allowWith (Object.empty.insert "path" (.string "safe.txt"))
  | _, .check _ _ => .ask "sure?"
  | _, .confirm _ => .ok true
  | _, question => Dialogue.idleAnswer question

/-- An engine with two checks, which has calls confirmed. -/
def guarded : Setup :=
  { Setup.plain with checks := 2, confirms := true }

/-- A call of an engine in these surroundings. -/
def permittedCall : List Exchange × CallOutcome × RunState :=
  (handle guarded (look "a") (.start (.empty ⟨"s"⟩))).play permitting 0

theorem tools_run_on_permission_alone_confirmed :
    (handle guarded (look "a") (.start (.empty ⟨"s"⟩))).Leads permittedCall.1
        (.done permittedCall.2) ∧
      ∃ judged,
        Permission.Judges guarded.preChecks guarded.confirmer ⟨"s"⟩ (look "a") judged
          (.proceed (Object.empty.insert "path" (.string "safe.txt"))) ∧
        permittedCall.1.take 4 = judged ++ [⟨.report (.toolStart "a" "look"), ()⟩] := by
  have hpath : (handle guarded (look "a") (.start (.empty ⟨"s"⟩))).Leads permittedCall.1
      (.done permittedCall.2) := Dialogue.leads_play permitting 0 _
  obtain ⟨judged, hjudges, hbefore, -⟩ := tools_run_on_permission_alone.2.2 _ _ _ _ _ hpath
    (permittedCall.1.take 4) "look" _ ⟨"a"⟩ none (permittedCall.1.drop 5) rfl
  exact ⟨hpath, judged, hjudges, hbefore⟩

end Engine

end AgentSessions
