import AgentSessions.Proofs.Engine.Compactors

/-!
# Signals of a run

A run can be followed from outside by what it reports and by the answers of the model that it
hears; these are its signals, in the order in which they come. A call that is resolved is reported
in one of three ways (`Resolution`), and the calls of an answer one after another, each with the
record that it leaves (`Resolutions`). The counters of a run go with the records (`Tallies`).

`Unrolls` lists what a run signals from a state on, step by step, and with it what the run comes to.
Everything that is said of the events and of the summary of a run is read off it by induction on
its steps.
-/

set_option autoImplicit false

namespace AgentSessions

open Json (Object)

/-- What is heard of the model: nothing if the run is cancelled before. -/
abbrev ModelAnswer := Option (Except ModelError ModelResponse)

/-- What can be followed of a run. -/
inductive Signal where
  | event (body : EventBody)
  | heard (answer : ModelAnswer)

/-- The signal of an exchange. -/
def Exchange.signal? : Exchange → Option Signal
  | ⟨.report body, _⟩ => some (.event body)
  | ⟨.chat _, answer⟩ => some (.heard answer)
  | _ => none

/-- The event with which the resolution of a call ends. -/
def ToolCall.ended (call : ToolCall) (outcome : CallOutcome) : EventBody :=
  .toolEnd call.id.text call.name outcome

namespace Engine

open Dialogue (Does Calm does_pure does_pure_after calm_pure calm_put)

/-! ## Calls and their records -/

/-- What is reported of a call that is settled in this way. -/
inductive Resolution (call : ToolCall) : CallOutcome → List EventBody → Prop where
  /-- Its tool was not started. -/
  | unstarted {outcome : CallOutcome} :
      outcome = .denied ∨ outcome = .quotaExceeded ∨ outcome = .cancelled →
      Resolution call outcome [call.ended outcome]
  /-- It was refused because of this limit. -/
  | refused (limit : UInt32) :
      Resolution call .quotaExceeded
        [.quotaExceeded call.name limit, call.ended .quotaExceeded]
  | started {outcome : CallOutcome} :
      outcome = .succeeded ∨ outcome = .failed ∨ outcome = .cancelled →
      Resolution call outcome [.toolStart call.id.text call.name, call.ended outcome]

/-- What is reported of calls that are settled one after another in a step, and their records. -/
inductive Resolutions (step : UInt32) :
    List ToolCall → List CallRecord → List EventBody → Prop where
  | nil : Resolutions step [] [] []
  | cons {call : ToolCall} {r : CallRecord} {calls : List ToolCall} {records : List CallRecord}
      {events more : List EventBody} : r.toolName = call.name → r.step = step →
      Resolution call r.outcome events → Resolutions step calls records more →
      Resolutions step (call :: calls) (r :: records) (events ++ more)

theorem Resolutions.step_of_mem {step : UInt32} {calls : List ToolCall}
    {records : List CallRecord} {events : List EventBody}
    (h : Resolutions step calls records events) : ∀ r ∈ records, r.step = step := by
  induction h with
  | nil =>
      intro r hr
      cases hr
  | cons _ hstep _ _ ih =>
      intro r hr
      rcases List.mem_cons.mp hr with rfl | hr
      · exact hstep
      · exact ih r hr

/-- What calls with these records leave of a state besides its history. -/
structure Tallies (st : RunState) (added : List CallRecord) (st' : RunState) : Prop where
  records : st'.session.records = st.session.records ++ added
  steps : st'.steps = st.steps
  executed : st'.executed = st.executed + added.countP CallRecord.executed
  lastText : st'.lastText = st.lastText

theorem tallies_nil (st : RunState) : Tallies st [] st :=
  ⟨(List.append_nil _).symm, rfl, rfl, rfl⟩

theorem Tallies.append {st st' st'' : RunState} {records more : List CallRecord}
    (h : Tallies st records st') (h' : Tallies st' more st'') :
    Tallies st (records ++ more) st'' where
  records := by rw [h'.records, h.records, List.append_assoc]
  steps := h'.steps.trans h.steps
  executed := by rw [h'.executed, h.executed, List.countP_append, Nat.add_assoc]
  lastText := h'.lastText.trans h.lastText

theorem Tallies.step {st st' : RunState} {records : List CallRecord}
    (h : Tallies st records st') : st'.step = st.step :=
  congrArg UInt32.ofNat h.steps

/-! ## What is signalled of calls -/

/-- The signals and the result of a part of a run. -/
abbrev Signals {α : Type} (P : List Signal → α → Prop) (d : Dialogue α) : Prop :=
  d.Does Exchange.signal? P

theorem overlooks_signal? : Overlooks Exchange.signal? := by
  intro question answer haside
  cases question with
  | isCancelled | chat | execute | save | report => cases haside
  | now | consult | summarize | check | confirm | review | warn => rfl

theorem overlooksSaves_signal? : OverlooksSaves Exchange.signal? :=
  fun _ _ => rfl

theorem signals_report (body : EventBody) :
    Signals (fun ss _ => ss = [.event body]) (Dialogue.report body) :=
  fun _ => rfl

theorem signals_chat (request : ModelRequest) :
    Signals (fun ss answer => ss = [.heard answer]) (Dialogue.put (.chat request)) :=
  fun _ => rfl

/-- A call was resolved with this outcome, as it was reported and recorded. -/
def Clears (call : ToolCall) (st : RunState) (ss : List Signal) (outcome : CallOutcome)
    (st' : RunState) : Prop :=
  ∃ (r : CallRecord) (events : List EventBody), ss = events.map .event ∧
    r.toolName = call.name ∧ r.step = st.step ∧ r.outcome = outcome ∧
    Resolution call outcome events ∧ Tallies st [r] st' ∧ st'.forced = st.forced

/-- A call is settled in a state that counts it already if its tool ran to its end; `lead` was
reported of it before. -/
theorem signals_settle {call : ToolCall} (arguments : Object) {s : Settlement}
    (st st₁ : RunState) {lead : List EventBody}
    (hrecords : st₁.session.records = st.session.records)
    (hsteps : st₁.steps = st.steps)
    (hexecuted : st₁.executed = st.executed + if s.outcome.executed then 1 else 0)
    (hlast : st₁.lastText = st.lastText) (hforced : st₁.forced = st.forced)
    (hresolution : Resolution call s.outcome (lead ++ [call.ended s.outcome])) :
    Signals (fun ss => Clears call st (lead.map Signal.event ++ ss) s.outcome)
      (settle call arguments s st₁) := by
  refine (calm_now overlooks_signal?).then fun now _ => ?_
  intro answer
  have hstep : st₁.step = st.step := congrArg UInt32.ofNat hsteps
  refine ⟨⟨call.name, arguments, st.step, s.outcome, now⟩, _, ?_, rfl, rfl, rfl, hresolution, ?_,
    hforced⟩
  · rw [List.map_append]
    rfl
  · refine ⟨?_, hsteps, ?_, hlast⟩
    · show st₁.session.records ++ [⟨call.name, arguments, st₁.step, s.outcome, now⟩] = _
      rw [hrecords, hstep]
    · show st₁.executed = _
      rw [hexecuted, List.countP_singleton]
      rfl

/-- A call whose tool did not run to its end is settled without being counted. -/
theorem signals_settle_unexecuted {call : ToolCall} (arguments : Object) {s : Settlement}
    (st : RunState) {lead : List EventBody} (hexecuted : s.outcome.executed = false)
    (hresolution : Resolution call s.outcome (lead ++ [call.ended s.outcome])) :
    Signals (fun ss => Clears call st (lead.map Signal.event ++ ss) s.outcome)
      (settle call arguments s st) := by
  refine signals_settle arguments st st rfl rfl ?_ rfl rfl hresolution
  rw [hexecuted]
  rfl

/-- Calls that are not looked at any more. -/
theorem signals_leave {s : Settlement}
    (houtcome : s.outcome = .quotaExceeded ∨ s.outcome = .cancelled) (calls : List ToolCall)
    (st : RunState) :
    Signals
      (fun ss st' => ∃ (records : List CallRecord) (events : List EventBody),
        ss = events.map .event ∧ Resolutions st.step calls records events ∧
        Tallies st records st' ∧ (∀ r ∈ records, r.outcome = s.outcome) ∧ st'.forced = st.forced)
      (leave s calls st) := by
  have hunexecuted : s.outcome.executed = false := by
    rcases houtcome with h | h <;> rw [h] <;> rfl
  induction calls generalizing st with
  | nil =>
      refine does_pure ⟨[], [], rfl, .nil, tallies_nil st, ?_, rfl⟩
      intro r hr
      cases hr
  | cons call rest ih =>
      -- such a call was not started, so all that is reported of it is its end
      have hcall : Resolution call s.outcome ([] ++ [call.ended s.outcome]) :=
        .unstarted (.inr houtcome)
      refine (signals_settle_unexecuted call.arguments st hunexecuted hcall).bind
        fun ss st' hst' => (ih st').mono fun ss' st'' hst'' => ?_
      obtain ⟨r, events, rfl, hname, hstep, hr, hresolution, htallies, hforced⟩ := hst'
      obtain ⟨records, more, rfl, hresolutions, htallies', hall, hforced'⟩ := hst''
      rw [htallies.step] at hresolutions
      refine ⟨r :: records, events ++ more, List.map_append.symm,
        .cons hname hstep (hr ▸ hresolution) hresolutions, htallies.append htallies', ?_,
        hforced'.trans hforced⟩
      intro r' hr'
      rcases List.mem_cons.mp hr' with rfl | hr'
      · exact hr
      · exact hall r' hr'

theorem signals_execute (setup : Setup) (session : SessionId) (call : ToolCall)
    (arguments : Object) :
    (execute setup session call arguments).Calm Exchange.signal? fun _ => True := by
  refine Calm.bind (P := fun _ => True) (calm_put fun _ => rfl) fun answer _ => ?_
  cases answer with
  | none => exact calm_pure trivial
  | some answer =>
      exact (calm_review overlooks_signal?.opinions setup _).bind fun reviewed _ =>
        calm_pure trivial

theorem signals_runTool (setup : Setup) (call : ToolCall) (arguments : Object) (st : RunState) :
    Signals (fun ss result => Clears call st ss result.1 result.2)
      (runTool setup call arguments st) := by
  refine (signals_report _).bind fun ss _ hss => ?_
  rw [hss]
  refine (signals_execute setup _ call arguments).then fun answer _ => ?_
  -- the start is reported already, so any end will do behind it
  have hlead : ∀ outcome : CallOutcome,
      outcome = .succeeded ∨ outcome = .failed ∨ outcome = .cancelled →
      Resolution call outcome
        ([.toolStart call.id.text call.name] ++ [call.ended outcome]) := fun _ h => .started h
  cases answer with
  | none =>
      have hcancelled := hlead .cancelled (.inr (.inr rfl))
      have hsettle := signals_settle_unexecuted arguments st (s := .interrupted) rfl hcancelled
      exact Does.map hsettle fun ss' st' hst' => hst'
  | some result =>
      have hran : (Settlement.ran result).outcome = .succeeded ∨
          (Settlement.ran result).outcome = .failed ∨
          (Settlement.ran result).outcome = .cancelled := by
        unfold Settlement.ran
        cases result.success with
        | true => exact .inl rfl
        | false => exact .inr (.inl rfl)
      have hcounted : (st.countRun call.name).executed =
          st.executed + if (Settlement.ran result).outcome.executed then 1 else 0 := by
        unfold Settlement.ran
        cases result.success <;> rfl
      have hsettle := signals_settle arguments st (st.countRun call.name) rfl rfl hcounted rfl rfl
        (hlead _ hran)
      exact Does.map hsettle fun ss' st' hst' => hst'

theorem signals_handle (setup : Setup) (call : ToolCall) (st : RunState) :
    Signals (fun ss result => Clears call st ss result.1 result.2) (handle setup call st) := by
  refine (calm_judge overlooks_signal?.opinions setup st.session.id call).then fun verdict _ => ?_
  cases verdict with
  | deny reason arguments =>
      have hdenied : Resolution call .denied ([] ++ [call.ended .denied]) := .unstarted (.inl rfl)
      have hsettle :=
        signals_settle_unexecuted arguments st (s := .denied reason) rfl hdenied
      refine hsettle.bind fun ss st' hst' => does_pure ?_
      rw [List.append_nil]
      exact hst'
  | proceed arguments =>
      dsimp only
      cases st.session.counts.checkWith call.name setup.settings with
      | none => exact signals_runTool setup call arguments st
      | some exceeded =>
          refine (signals_report _).bind fun ss _ hss => ?_
          rw [hss]
          have hrefused : Resolution call .quotaExceeded
              ([.quotaExceeded call.name exceeded.limit] ++ [call.ended .quotaExceeded]) :=
            .refused exceeded.limit
          have hsettle := signals_settle_unexecuted arguments st
            (s := .overQuota call.name exceeded) rfl hrefused
          exact Does.map hsettle fun ss' st' hst' => hst'

/-! ## The calls of an answer -/

/-- The calls of an answer were resolved, as they were reported and recorded. The model has to
answer without tools from then on if one of them was over its quota. -/
def ClearsAll (calls : List ToolCall) (st : RunState) (ss : List Signal) (st' : RunState) : Prop :=
  ∃ (records : List CallRecord) (events : List EventBody), ss = events.map .event ∧
    Resolutions st.step calls records events ∧ Tallies st records st' ∧
    (st'.forced = true ↔ st.forced = true ∨ ∃ r ∈ records, r.outcome = .quotaExceeded)

theorem Clears.cons {call : ToolCall} {rest : List ToolCall} {st st' st₁ st'' : RunState}
    {ss ss' : List Signal} {outcome : CallOutcome} (h : Clears call st ss outcome st')
    (hsame : Tallies st' [] st₁)
    (hforced : st₁.forced = true ↔ st'.forced = true ∨ outcome = .quotaExceeded)
    (h' : ClearsAll rest st₁ ss' st'') : ClearsAll (call :: rest) st (ss ++ ss') st'' := by
  obtain ⟨r, events, rfl, hname, hstep, hr, hresolution, htallies, hkept⟩ := h
  obtain ⟨records, more, rfl, hresolutions, htallies', hquota⟩ := h'
  have hlike : Tallies st [r] st₁ := htallies.append hsame
  rw [hlike.step] at hresolutions
  refine ⟨r :: records, events ++ more, List.map_append.symm,
    .cons hname hstep (hr ▸ hresolution) hresolutions, hlike.append htallies', ?_⟩
  rw [hquota, hforced, hkept, ← hr, or_assoc]
  simp only [List.mem_cons, exists_eq_or_imp]

/-- Calls are left because the run is cancelled, or because one before them was over its quota. -/
theorem signals_leave_all {s : Settlement} {st : RunState}
    (houtcome : s.outcome = .cancelled ∨ s.outcome = .quotaExceeded ∧ st.forced = true)
    (calls : List ToolCall) :
    Signals (ClearsAll calls st) (leave s calls st) := by
  have hleft : s.outcome = .quotaExceeded ∨ s.outcome = .cancelled := by
    rcases houtcome with h | h
    · exact .inr h
    · exact .inl h.1
  refine (signals_leave hleft calls st).mono fun ss st' hst' => ?_
  obtain ⟨records, events, hss, hresolutions, htallies, hall, hforced⟩ := hst'
  refine ⟨records, events, hss, hresolutions, htallies, ?_⟩
  rw [hforced]
  constructor
  · exact .inl
  · rintro (h | ⟨r, hr, hquota⟩)
    · exact h
    · rw [hall r hr] at hquota
      rcases houtcome with h | h
      · rw [h] at hquota
        cases hquota
      · exact h.2

theorem calm_isCancelled : Dialogue.isCancelled.Calm Exchange.signal? fun _ => True :=
  calm_put fun _ => rfl

theorem signals_resolve (setup : Setup) (calls : List ToolCall) (st : RunState) :
    Signals (fun ss result => ClearsAll calls st ss result.2) (resolve setup calls st) := by
  induction calls generalizing st with
  | nil =>
      refine does_pure ⟨[], [], rfl, .nil, tallies_nil st, ?_⟩
      simp
  | cons call rest ih =>
      -- the calls behind a cancellation or a refusal are left in the same way
      have hleaves : ∀ {s : Settlement} (tripped : Bool) {st₁ : RunState} {calls : List ToolCall},
          s.outcome = .cancelled ∨ s.outcome = .quotaExceeded ∧ st₁.forced = true →
          Signals (fun ss result => ClearsAll calls st₁ ss result.2) (do
            let st ← leave s calls st₁
            pure (tripped, st)) := by
        intro s tripped st₁ calls houtcome
        exact Does.map (signals_leave_all houtcome calls) fun ss st' hst' => hst'
      refine calm_isCancelled.then fun tripped _ => ?_
      cases tripped with
      | true => exact hleaves true (.inl rfl)
      | false =>
          cases hforced : st.forced with
          | true =>
              simp only [Bool.false_eq_true, if_false, if_true]
              exact hleaves false (.inr ⟨rfl, hforced⟩)
          | false =>
              simp only [Bool.false_eq_true, if_false]
              refine (signals_handle setup call st).bind fun ss result hresult => ?_
              obtain ⟨outcome, st'⟩ := result
              have hsame : Tallies st' [] st' := tallies_nil st'
              cases outcome with
              | cancelled =>
                  refine (hleaves (s := .leftCancelled) true (.inl rfl)).mono
                    fun ss' result' hrest => ?_
                  exact hresult.cons hsame (by simp) hrest
              | quotaExceeded =>
                  refine (ih { st' with forced := true }).mono fun ss' result' hrest => ?_
                  have hmarked : Tallies st' [] { st' with forced := true } :=
                    ⟨hsame.records, rfl, rfl, rfl⟩
                  exact hresult.cons hmarked (by simp) hrest
              | succeeded | failed | denied =>
                  refine (ih st').mono fun ss' result' hrest => ?_
                  exact hresult.cons hsame (by simp) hrest

/-- The turn with which a step is closed does not show in what was signalled. -/
theorem ClearsAll.close {setup : Setup} {calls : List ToolCall} {st st' st'' : RunState}
    {ss : List Signal} (h : ClearsAll calls st ss st') (hclose : ClosesAs setup st' (.next st'')) :
    ClearsAll calls st ss st'' := by
  obtain ⟨records, events, hss, hresolutions, htallies, hforced⟩ := h
  cases hclose with
  | free _ => exact ⟨records, events, hss, hresolutions, htallies, hforced⟩
  | forced now _ =>
      exact ⟨records, events, hss, hresolutions,
        ⟨htallies.records, htallies.steps, htallies.executed, htallies.lastText⟩, hforced⟩

/-! ## Steps -/

/-- The state in which the model is asked once more. -/
def RunState.next (st : RunState) : RunState :=
  { st with steps := st.steps + 1 }

/-- How a run ends with an answer whose calls are not resolved; `st` is the state in which the model
was asked. -/
inductive LastWord (st : RunState) : ModelAnswer → Conclusion → Prop where
  | cancelled {c : Conclusion} : c.1.records = st.session.records → c.2 = .error .cancelled →
      LastWord st none c
  | failed {e : ModelError} {c : Conclusion} : c.1.records = st.session.records →
      c.2 = .error (.model e) → LastWord st (some (.error e)) c
  | accepted {response : ModelResponse} {now : Instant} {c : Conclusion} :
      response.hasToolCalls = false ∨ st.forced = true →
      c.1 = st.session.addTurn (.assistant response.content now) →
      UnlessUnsaved (.ok (summaryOf response.content st)) c.2 →
      LastWord st (some (.ok response)) c

/-- Why a run ends without an answer that it just heard: it was cancelled, its session could not be
saved, or its steps are used up. -/
inductive StopsWith (limit : UInt32) (st : RunState) : Except RunError RunSummary → Prop where
  | cancelled : StopsWith limit st (.error .cancelled)
  | unsaved (e : StoreError) : StopsWith limit st (.error (.save e))
  | exhausted : st.steps = limit.toNat →
      StopsWith limit st (.error (.maxSteps limit st.lastText))

/-- What a run with so many steps signals from a state on, and what it comes to. -/
inductive Unrolls (limit : UInt32) : RunState → List Signal → Conclusion → Prop where
  | stops {st : RunState} {c : Conclusion} : c.1.records = st.session.records →
      StopsWith limit st c.2 → Unrolls limit st [] c
  | last {st : RunState} {answer : ModelAnswer} {c : Conclusion} :
      st.steps < limit.toNat → LastWord st.next answer c →
      Unrolls limit st [.event (.stepStart st.next.step), .heard answer] c
  | step {st st' : RunState} {response : ModelResponse} {now : Instant} {ss rest : List Signal}
      {c : Conclusion} : st.steps < limit.toNat → response.hasToolCalls = true →
      st.forced = false → ClearsAll response.toolCalls (st.next.addCalls response now) ss st' →
      Unrolls limit st' rest c →
      Unrolls limit st
        (.event (.stepStart st.next.step) :: .heard (some (.ok response)) :: (ss ++ rest)) c

theorem UnlessUnsaved.stopsWith {limit : UInt32} {st : RunState}
    {result : Except RunError RunSummary}
    (h : UnlessUnsaved (.error (.maxSteps limit st.lastText)) result)
    (hsteps : st.steps = limit.toNat) : StopsWith limit st result := by
  rcases h with rfl | ⟨e, rfl⟩
  · exact .exhausted hsteps
  · exact .unsaved e

/-- What comes of the calls of an answer: the run ends right after them, or goes on. -/
def ActsOn (limit : UInt32) (response : ModelResponse) (st : RunState) (ss : List Signal) :
    StepResult → Prop
  | .ended c => ∃ now st', ClearsAll response.toolCalls (st.addCalls response now) ss st' ∧
      Unrolls limit st' [] c
  | .next st' => ∃ now, ClearsAll response.toolCalls (st.addCalls response now) ss st'

theorem signals_act (limit : UInt32) (setup : Setup) (response : ModelResponse) (st : RunState) :
    Signals (ActsOn limit response st) (act setup response st) := by
  refine (calm_now overlooks_signal?).then fun now _ => ?_
  refine (signals_resolve setup response.toolCalls (st.addCalls response now)).bind
    fun ss result hresult => ?_
  obtain ⟨tripped, st'⟩ := result
  cases tripped with
  | true =>
      have habort := calm_abort overlooks_signal? overlooksSaves_signal? st'.session
      refine habort.does_map fun c hc => ?_
      obtain ⟨now', rfl⟩ := hc
      rw [List.append_nil]
      exact ⟨now, st', hresult, .stops rfl .cancelled⟩
  | false =>
      have hclose := calm_closeStep overlooks_signal? overlooksSaves_signal? setup st'
      refine hclose.does fun closed hcloses => ?_
      rw [List.append_nil]
      cases hcloses with
      | @unsaved st'' e hcloses =>
          exact ⟨now, st'', hresult.close hcloses, .stops rfl (.unsaved e)⟩
      | free hforced => exact ⟨now, hresult⟩
      | forced now' hforced => exact ⟨now, hresult.close (.forced now' hforced)⟩

/-- What comes of a step. -/
def StepsTo (limit : UInt32) (st : RunState) (ss : List Signal) : StepResult → Prop
  | .ended c => Unrolls limit st ss c
  | .next st' => ∃ response now ss',
      ss = .event (.stepStart st.next.step) :: .heard (some (.ok response)) :: ss' ∧
      response.hasToolCalls = true ∧ st.forced = false ∧
      ClearsAll response.toolCalls (st.next.addCalls response now) ss' st'

theorem signals_takeStep {limit : UInt32} (setup : Setup) {st : RunState}
    (hsteps : st.steps < limit.toNat) : Signals (StepsTo limit st) (takeStep setup st) := by
  refine (signals_report _).bind fun ss _ hss => ?_
  rw [hss]
  refine (calm_requestTurns overlooks_signal? setup st.session).then fun turns _ => ?_
  refine (signals_chat _).bind fun ss' answer hss' => ?_
  rw [hss']
  match answer with
  | none =>
      have habort := calm_abort overlooks_signal? overlooksSaves_signal? st.session
      refine habort.does_map fun c hc => ?_
      obtain ⟨now, rfl⟩ := hc
      exact .last hsteps (.cancelled rfl rfl)
  | some (.error e) =>
      have hfailed := calm_modelFailed overlooks_signal? overlooksSaves_signal? st.session e
      refine hfailed.does_map fun c hc => ?_
      obtain ⟨now, rfl⟩ := hc
      exact .last hsteps (.failed rfl rfl)
  | some (.ok response) =>
      dsimp only
      split
      · rename_i haccepted
        have hlast : response.hasToolCalls = false ∨ st.forced = true := by
          simpa using haccepted
        have hanswered :=
          calm_answered overlooks_signal? overlooksSaves_signal? response.content st.next
        refine hanswered.does_map fun c hc => ?_
        obtain ⟨now, hsession, hresult⟩ := hc
        exact .last hsteps (.accepted hlast hsession hresult)
      · rename_i hact
        have hboth : response.hasToolCalls = true ∧ st.forced = false := by
          simpa using hact
        obtain ⟨hcalls, hforced⟩ := hboth
        refine (signals_act limit setup response st.next).mono fun ss result hresult => ?_
        cases result with
        | ended c =>
            obtain ⟨now, st', hclears, hends⟩ := hresult
            have hunrolls := Unrolls.step hsteps hcalls hforced hclears hends
            rw [List.append_nil] at hunrolls
            exact hunrolls
        | next st' =>
            obtain ⟨now, hclears⟩ := hresult
            exact ⟨response, now, ss, rfl, hcalls, hforced, hclears⟩

/-! ## The whole run -/

theorem signals_abort (limit : UInt32) (st : RunState) :
    Signals (Unrolls limit st) (abort st.session) := by
  refine (calm_abort overlooks_signal? overlooksSaves_signal? st.session).does fun c hc => ?_
  obtain ⟨now, rfl⟩ := hc
  exact .stops rfl .cancelled

theorem signals_loop (setup : Setup) (left : Nat) (st : RunState)
    (hleft : st.steps + left = setup.settings.maxSteps.toNat) :
    Signals (Unrolls setup.settings.maxSteps st) (loop setup left st) := by
  have hlook : Signals (fun ss _ => ss = []) Dialogue.isCancelled := fun _ => rfl
  induction left generalizing st with
  | zero =>
      refine does_unlessCancelled hlook (signals_abort _ st) ?_
      have hexhausted :=
        calm_exhausted overlooks_signal? overlooksSaves_signal? setup.settings.maxSteps st
      refine hexhausted.does fun c hc => ?_
      obtain ⟨now, hsession, hresult⟩ := hc
      have hrecords : c.1.records = st.session.records := by
        rw [hsession]
        rfl
      exact .stops hrecords (hresult.stopsWith hleft)
  | succ left ih =>
      have hsteps : st.steps < setup.settings.maxSteps.toNat := by omega
      refine does_unlessCancelled hlook (signals_abort _ st) ?_
      refine (signals_takeStep setup hsteps).bind fun ss result hresult => ?_
      cases result with
      | ended c =>
          exact does_pure_after hresult
      | next st' =>
          obtain ⟨response, now, ss', rfl, hcalls, hforced, hclears⟩ := hresult
          -- a step was taken, so those taken and those left still add up to the limit
          have htaken : st'.steps = st.steps + 1 := by
            obtain ⟨records, events, -, -, htallies, -⟩ := hclears
            exact htallies.steps
          have hleft' : st'.steps + left = setup.settings.maxSteps.toNat := by omega
          refine (ih st' hleft').mono fun rest c hrest => ?_
          exact .step hsteps hcalls hforced hclears hrest

/-- What a whole run signals: it starts, its history may be compacted, it takes its steps, and it
says how it ended. -/
def Plays (setup : Setup) (session : Session) (ss : List Signal) (c : Conclusion) : Prop :=
  ∃ (s : Session) (compaction : Option CompactionResult) (steps : List Signal),
    s.records = session.records ∧
    ss = .event .runStart :: (compaction.toList.map (.event ∘ compactionEvent) ++
      (steps ++ [.event (closingEvent c.2)])) ∧
    Unrolls setup.settings.maxSteps (.start s) steps c

theorem signals_run (setup : Setup) (session : Session) (prompt : String) :
    Signals (Plays setup session) (run setup session prompt) := by
  have hconverse : Signals
      (fun ss c => ∃ (s : Session) (compaction : Option CompactionResult) (steps : List Signal),
        s.records = session.records ∧
        ss = compaction.toList.map (.event ∘ compactionEvent) ++ steps ∧
        Unrolls setup.settings.maxSteps (.start s) steps c)
      (converse setup session prompt) := by
    refine (calm_now overlooks_signal?).then fun now _ => ?_
    refine (does_compactIfDue overlooks_signal? setup _).bind fun ss s hs => ?_
    obtain ⟨⟨compaction, rfl⟩, hsame, -⟩ := hs
    have hrecords : s.records = session.records := by
      rw [hsame]
      rfl
    refine (signals_loop setup _ (.start s) (Nat.zero_add _)).mono fun steps c hc => ?_
    have hreported : (compaction.toList.filterMap fun r =>
        Exchange.signal? ⟨.report (compactionEvent r), ()⟩) =
        compaction.toList.map (.event ∘ compactionEvent) :=
      congrFun List.filterMap_eq_map compaction.toList
    exact ⟨s, compaction, steps, hrecords, congrArg (· ++ steps) hreported, hc⟩
  refine (signals_report .runStart).bind fun ss _ hss => ?_
  rw [hss]
  refine hconverse.bind fun ss' c hc => ?_
  obtain ⟨s, compaction, steps, hrecords, rfl, hunrolls⟩ := hc
  refine (signals_report _).bind fun ss'' _ hss'' => does_pure ?_
  refine ⟨s, compaction, steps, hrecords, ?_, hunrolls⟩
  rw [hss'', List.append_nil, List.append_assoc]
  rfl

end Engine

end AgentSessions
