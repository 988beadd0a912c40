import AgentSessions.Proofs.Engine.Rounds

/-!
# The audit trail of a run

The records that a run adds to the audit trail are those of the calls that it adds to the history,
in order and with the step in which the model asked for them; the results of the calls agree with
them, and so do the exchanges of the run: a call is recorded as executed just when its tool
returned, and then with the arguments that the tool got (`Engine.Audit`).
-/

set_option autoImplicit false

namespace AgentSessions

/-- Whether the mark tells what became of a call. -/
def CallMark.tells : CallMark → Bool
  | tried _ _ _ answer => answer.isSome
  | settled _ _ _ => true
  | _ => false

/-- A call that was settled, with its tool and its outcome. -/
def CallMark.settled? : CallMark → Option (String × String × CallOutcome)
  | settled call tool outcome => some (call, tool, outcome)
  | _ => none

theorem CallMark.settled?_filter_tells (ms : List CallMark) :
    (ms.filter tells).filterMap settled? = ms.filterMap settled? := by
  induction ms with
  | nil => rfl
  | cons mark rest ih =>
      cases mark with
      | looked | asked | refused => exact ih
      | settled call tool outcome => exact congrArg (List.cons _) ih
      | tried tool arguments call answer =>
          cases answer with
          | none => exact ih
          | some answer => exact ih

/-- The calls of an answer of the model. -/
def CallMark.calls? : CallMark → Option (List ToolCall)
  | asked _ (some (.ok response)) => some response.toolCalls
  | _ => none

/-- The calls of turns, numbered by the turns that ask for them. -/
def numberedCalls (turns : List Turn) : List (ToolCall × Nat) :=
  ((turns.filter Turn.hasToolCalls).zipIdx 1).flatMap fun turn =>
    turn.1.toolCalls.map (·, turn.2)

namespace Engine

/-- What is seen of calls with these records: how each of them was settled, and before that, for
those that are recorded as executed and for no others, that the tool returned for the recorded
arguments. Where nobody reviews results, the call succeeded just when its tool did. -/
inductive Told (setup : Setup) : List ToolCall → List CallRecord → List CallMark → Prop where
  | nothing : Told setup [] [] []
  | returned {call : ToolCall} {r : CallRecord} {answer : ToolOutcome} {calls : List ToolCall}
      {records : List CallRecord} {ms : List CallMark} : r.executed = true →
      (setup.reviews = 0 → (r.outcome = .succeeded ↔ answer.success = true)) →
      Told setup calls records ms →
      Told setup (call :: calls) (r :: records)
        (.tried call.name r.arguments call.id (some answer) ::
          .settled call.id.text call.name r.outcome :: ms)
  | notRun {call : ToolCall} {r : CallRecord} {calls : List ToolCall} {records : List CallRecord}
      {ms : List CallMark} : r.executed = false → Told setup calls records ms →
      Told setup (call :: calls) (r :: records)
        (.settled call.id.text call.name r.outcome :: ms)

/-- The records of a run agree with the turns that it adds and with what is seen of it. -/
structure Audit (setup : Setup) (trace : List Exchange) (added : List Turn)
    (records : List CallRecord) : Prop where
  /-- There is one record for each call, with its tool and its step. -/
  calls : List.Forall₂ (fun call r => r.toolName = call.1.name ∧ r.step.toNat = call.2)
    (numberedCalls added) records
  /-- The steps are the answers of the model, one after another. -/
  steps : (added.filter Turn.hasToolCalls).map Turn.toolCalls <+:
    (trace.filterMap Exchange.callMark?).filterMap CallMark.calls?
  /-- There is one result for each call. -/
  answers : List.Forall₂ ToolCall.AnsweredBy (added.flatMap Turn.toolCalls)
    (added.filter Turn.isToolResult)
  results : List.Forall₂
    (fun result r => result.isError = false ↔ r.outcome = .succeeded ∨ r.outcome = .denied)
    (added.filter Turn.isToolResult) records
  executions : Told setup (added.flatMap Turn.toolCalls) records
    ((trace.filterMap Exchange.callMark?).filter CallMark.tells)

/-- Every call has a record, and is settled as its record says. -/
theorem Told.settled {setup : Setup} {calls : List ToolCall} {records : List CallRecord}
    {ms : List CallMark} (h : Told setup calls records ms) :
    calls.length = records.length ∧ ms.filterMap CallMark.settled? =
      List.zipWith (fun call r => (call.id.text, call.name, r.outcome)) calls records := by
  induction h with
  | nothing => exact ⟨rfl, rfl⟩
  | returned _ _ _ ih => exact ⟨congrArg Nat.succ ih.1, congrArg (List.cons _) ih.2⟩
  | notRun _ _ ih => exact ⟨congrArg Nat.succ ih.1, congrArg (List.cons _) ih.2⟩

/-! ## Accounts and marks -/

/-- A result that nobody reviewed is what the tool returned. -/
def Account.Unchanged (setup : Setup) (a : Account) : Prop :=
  ∀ answer result, a.fate = .ran answer result → setup.reviews = 0 → result = answer

theorem Account.unchanged_of_ne_ran {setup : Setup} {a : Account} {fate : Fate}
    (hfate : a.fate = fate) (hran : ∀ answer result, fate ≠ .ran answer result) :
    a.Unchanged setup :=
  fun answer result h => absurd (hfate.symm.trans h) (hran answer result)

theorem told_cons {setup : Setup} {a : Account} (hunchanged : a.Unchanged setup) (step : UInt32)
    {calls : List ToolCall} {records : List CallRecord} {ms : List CallMark}
    (h : Told setup calls records ms) :
    Told setup (a.call :: calls) (a.record step :: records)
      (a.marks.filter CallMark.tells ++ ms) := by
  obtain ⟨call, arguments, fate, time⟩ := a
  cases fate with
  | ran answer result =>
      refine .returned (executed_ran result) (fun hreviews => ?_) h
      rw [← hunchanged answer result rfl hreviews]
      exact outcome_ran_eq_succeeded_iff
  | denied reason => exact .notRun rfl h
  | refused exceeded => exact .notRun rfl h
  | interrupted => exact .notRun rfl h
  | leftCancelled => exact .notRun rfl h
  | leftOverQuota => exact .notRun rfl h

theorem told_of_entries {setup : Setup} {entries : List (Account × Nat)}
    (hunchanged : ∀ e ∈ entries, e.1.Unchanged setup) :
    Told setup (entries.map (·.1.call)) (entries.map fun e => e.1.record (.ofNat e.2))
      (((entries.map Prod.fst).flatMap Account.marks).filter CallMark.tells) := by
  induction entries with
  | nil => exact .nothing
  | cons e rest ih =>
      have hrest := ih fun e' he' => hunchanged e' (List.mem_cons_of_mem _ he')
      simp only [List.map_cons, List.flatMap_cons, List.filter_append]
      exact told_cons (hunchanged e List.mem_cons_self) _ hrest

/-! ## What is told in rounds -/

theorem Remains.told {accounts : List Account} {ms : List CallMark} {upshot : Upshot}
    (h : Remains accounts ms upshot) :
    ms.filter CallMark.tells = (accounts.flatMap Account.marks).filter CallMark.tells := by
  cases h with
  | nothing => rfl
  | overQuota _ => rfl
  | cancelled _ => rfl

theorem Remains.unchanged {setup : Setup} {accounts : List Account} {ms : List CallMark}
    {upshot : Upshot} (h : Remains accounts ms upshot) : ∀ a ∈ accounts, a.Unchanged setup := by
  intro a ha
  cases h with
  | nothing => cases ha
  | overQuota hleft => exact Account.unchanged_of_ne_ran (hleft a ha) fun _ _ => Fate.noConfusion
  | cancelled hleft => exact Account.unchanged_of_ne_ran (hleft a ha) fun _ _ => Fate.noConfusion

theorem Resolves.told {setup : Setup} {c : QuotaCounts} {accounts : List Account}
    {ms : List CallMark} {upshot : Upshot} (h : Resolves setup c accounts ms upshot) :
    ms.filter CallMark.tells = (accounts.flatMap Account.marks).filter CallMark.tells := by
  have hlooked : ∀ (tripped : Bool) (ms : List CallMark),
      (CallMark.looked tripped :: ms).filter CallMark.tells = ms.filter CallMark.tells :=
    fun tripped ms => List.filter_cons_of_neg Bool.false_ne_true
  induction h with
  | nothing c => rfl
  | cancelled _ => exact hlooked _ _
  | passes _ _ ih => rw [hlooked, List.filter_append, ih, List.flatMap_cons, List.filter_append]
  | interrupted _ _ _ => rw [hlooked, List.flatMap_cons]
  | refused _ _ hremains =>
      rw [hlooked, List.filter_append, hremains.told, List.flatMap_cons, List.filter_append]

theorem Resolves.unchanged {setup : Setup} {c : QuotaCounts} {accounts : List Account}
    {ms : List CallMark} {upshot : Upshot} (h : Resolves setup c accounts ms upshot) :
    ∀ a ∈ accounts, a.Unchanged setup := by
  have hne := fun (a : Account) (fate : Fate) => @Account.unchanged_of_ne_ran setup a fate
  induction h with
  | nothing c => exact fun a ha => absurd ha List.not_mem_nil
  | cancelled hleft => exact fun a ha => hne a _ (hleft a ha) fun _ _ => Fate.noConfusion
  | passes hpasses _ ih =>
      refine List.forall_mem_cons.mpr ⟨?_, ih⟩
      cases hpasses with
      | denied hfate => exact hne _ _ hfate fun _ _ => Fate.noConfusion
      | ran hfate hreviews _ =>
          intro answer result hfate' h
          obtain ⟨rfl, rfl⟩ := Fate.ran.inj (hfate.symm.trans hfate')
          exact hreviews h
  | interrupted hfate _ hleft =>
      refine List.forall_mem_cons.mpr ⟨hne _ _ hfate fun _ _ => Fate.noConfusion, ?_⟩
      exact fun b hb => hne b _ (hleft b hb) fun _ _ => Fate.noConfusion
  | refused hfate _ hremains =>
      exact List.forall_mem_cons.mpr
        ⟨hne _ _ hfate fun _ _ => Fate.noConfusion, hremains.unchanged⟩

theorem Concludes.told {tools : List ToolSpec} {ms : List CallMark} (h : Concludes tools ms) :
    ms.filter CallMark.tells = [] := by
  cases h with
  | cancelled => rfl
  | exhausted => rfl
  | asked answer => rfl

theorem Unfolds.told {setup : Setup} {steps : Nat} {s s' : Session} {rounds : List Round}
    {ms : List CallMark} (h : Unfolds setup steps s rounds ms s') :
    ms.filter CallMark.tells =
      ((rounds.flatMap Round.accounts).flatMap Account.marks).filter CallMark.tells := by
  have hlead : ∀ (round : Round) (ms : List CallMark),
      (round.lead setup.tools ++ ms).filter CallMark.tells = ms.filter CallMark.tells :=
    fun round ms => rfl
  induction h with
  | ends hconcludes _ => exact hconcludes.told
  | @breaksOff _ _ _ round _ _ hresolves _ =>
      rw [hlead, hresolves.told, List.flatMap_singleton]
  | forced hresolves hconcludes _ =>
      rw [hlead, List.filter_append, hresolves.told, hconcludes.told, List.flatMap_singleton,
        List.append_nil]
  | step hresolves _ _ ih =>
      rw [hlead, List.filter_append, hresolves.told, ih, List.flatMap_cons, List.flatMap_append,
        List.filter_append]

theorem Unfolds.unchanged {setup : Setup} {steps : Nat} {s s' : Session} {rounds : List Round}
    {ms : List CallMark} (h : Unfolds setup steps s rounds ms s') :
    ∀ a ∈ rounds.flatMap Round.accounts, a.Unchanged setup := by
  intro a ha
  obtain ⟨round, hround, ha⟩ := List.mem_flatMap.mp ha
  obtain ⟨c, ms, upshot, hresolves⟩ := h.resolves round hround
  exact hresolves.unchanged a ha

theorem Account.calls_marks (a : Account) : a.marks.filterMap CallMark.calls? = [] := by
  obtain ⟨call, arguments, fate, time⟩ := a
  cases fate <;> rfl

/-- The model is not asked while calls are resolved. -/
theorem Resolves.calls {setup : Setup} {c : QuotaCounts} {accounts : List Account}
    {ms : List CallMark} {upshot : Upshot} (h : Resolves setup c accounts ms upshot) :
    ms.filterMap CallMark.calls? = [] := by
  refine List.filterMap_eq_nil_iff.mpr fun mark hmark => ?_
  rcases h.of_mem hmark with ⟨tripped, rfl⟩ | hmark
  · rfl
  · obtain ⟨a, -, hmark⟩ := List.mem_flatMap.mp hmark
    exact List.filterMap_eq_nil_iff.mp a.calls_marks mark hmark

/-- The calls of rounds are those of the first answers of the model. -/
theorem Unfolds.calls {setup : Setup} {steps : Nat} {s s' : Session} {rounds : List Round}
    {ms : List CallMark} (h : Unfolds setup steps s rounds ms s') :
    rounds.map (·.response.toolCalls) <+: ms.filterMap CallMark.calls? := by
  have hlead : ∀ (round : Round) (ms : List CallMark),
      (round.lead setup.tools ++ ms).filterMap CallMark.calls? =
        round.response.toolCalls :: ms.filterMap CallMark.calls? :=
    fun round ms => rfl
  induction h with
  | ends _ _ => exact List.nil_prefix
  | breaksOff _ _ => exact hlead _ _ ▸ List.prefix_append [_] _
  | forced _ _ _ => exact hlead _ _ ▸ List.prefix_append [_] _
  | step hresolves _ _ ih =>
      rw [hlead, List.filterMap_append, hresolves.calls]
      exact List.prefix_cons_inj _ |>.mpr ih

/-! ## The records of a run -/

theorem map_fst_numberedCalls (turns : List Turn) :
    (numberedCalls turns).map Prod.fst = turns.flatMap Turn.toolCalls := by
  have hfrom : ∀ step,
      (((turns.filter Turn.hasToolCalls).zipIdx step).flatMap fun turn =>
        turn.1.toolCalls.map (·, turn.2)).map Prod.fst = turns.flatMap Turn.toolCalls := by
    induction turns with
    | nil => exact fun step => rfl
    | cons turn rest ih =>
        intro step
        cases hcalls : turn.hasToolCalls with
        | true =>
            have hturn : (turn.toolCalls.map (·, step)).map Prod.fst = turn.toolCalls := by
              rw [List.map_map]
              exact List.map_id _
            rw [List.filter_cons_of_pos hcalls, List.zipIdx_cons, List.flatMap_cons,
              List.map_append, hturn, ih, List.flatMap_cons]
        | false =>
            have hnone : turn.toolCalls = [] := by
              simpa [Turn.hasToolCalls] using hcalls
            rw [List.filter_cons_of_neg (by rw [hcalls]; exact Bool.false_ne_true), ih,
              List.flatMap_cons, hnone, List.nil_append]
  exact hfrom 1

theorem numberedCalls_eq {added : List Turn} {rounds : List Round}
    (h : added.filter Turn.hasToolCalls = rounds.map Round.turn) :
    numberedCalls added = (entries 1 rounds).map fun e => (e.1.call, e.2) := by
  have hfrom : ∀ step,
      ((rounds.map Round.turn).zipIdx step).flatMap (fun turn => turn.1.toolCalls.map (·, turn.2)) =
        (entries step rounds).map fun e => (e.1.call, e.2) := by
    clear h
    induction rounds with
    | nil => exact fun step => rfl
    | cons round rest ih =>
        intro step
        have hround : round.turn.toolCalls = round.accounts.map Account.call := round.answered.symm
        rw [List.map_cons, List.zipIdx_cons, List.flatMap_cons, ih, entries_cons, List.map_append,
          hround, List.map_map, List.map_map]
        rfl
  rw [numberedCalls, h]
  exact hfrom 1

theorem step_lt_of_mem_entries {step : Nat} {rounds : List Round} {e : Account × Nat}
    (h : e ∈ entries step rounds) : e.2 < step + rounds.length := by
  obtain ⟨round, hround, he⟩ := List.mem_flatMap.mp h
  obtain ⟨a, -, rfl⟩ := List.mem_map.mp he
  have hlt := (List.mem_zipIdx hround).2.1
  exact hlt

/-- The records of a run agree with its turns and with what is seen of it. -/
theorem Proceeds.audit {setup : Setup} {session : Session} {prompt : String}
    {trace : List Exchange} {c : Conclusion}
    (h : Proceeds setup session prompt (trace.filterMap Exchange.callMark?) c) :
    ∃ history added records now,
      setup.Compacts (session.turns ++ [.user prompt now]) history ∧
      c.1.turns = history ++ added ∧ c.1.records = session.records ++ records ∧
      Audit setup trace added records := by
  obtain ⟨history, rounds, now, hlength, hcompacts, hunfolds⟩ := h
  obtain ⟨added, hturns, hcalling, hresults⟩ := hunfolds.adds.turns
  have hnumbered := numberedCalls_eq hcalling
  have hcalls : added.flatMap Turn.toolCalls = (entries 1 rounds).map (·.1.call) := by
    rw [← map_fst_numberedCalls, hnumbered, List.map_map]
    rfl
  rw [← map_fst_entries 1, List.map_map] at hresults
  -- turns, results and records are all read off the accounts of the calls, so they agree entry by
  -- entry
  refine ⟨history, added, _, now, hcompacts, hturns, hunfolds.adds.records, ?_, ?_, ?_, ?_, ?_⟩
  · rw [hnumbered, List.forall₂_map_left_iff, List.forall₂_map_right_iff, List.forall₂_same]
    intro e he
    have hstep : e.2 < 2 ^ 32 := by
      have hlast := step_lt_of_mem_entries he
      have hmax := setup.settings.maxSteps.toNat_lt
      omega
    exact ⟨rfl, UInt32.toNat_ofNat_of_lt' hstep⟩
  · rw [hcalling, List.map_map]
    exact hunfolds.calls
  · rw [hcalls, hresults, List.forall₂_map_left_iff, List.forall₂_map_right_iff, List.forall₂_same]
    exact fun e _ => ⟨rfl, rfl⟩
  · rw [hresults, List.forall₂_map_left_iff, List.forall₂_map_right_iff, List.forall₂_same]
    exact fun e _ => e.1.isError_iff
  · rw [hcalls, hunfolds.told, ← map_fst_entries 1]
    refine told_of_entries fun e he => hunfolds.unchanged e.1 ?_
    rw [← map_fst_entries 1]
    exact List.mem_map_of_mem he

end Engine

end AgentSessions
