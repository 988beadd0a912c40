import AgentSessions.Proofs.Engine.Signals

/-!
# Bounds and summaries of runs

A run asks the model at most as often as it has steps, whatever it is answered, and so it comes to
its end. The counters that it keeps agree with what can be seen of it: the summary of a run that is
answered tells how often the model was asked, how many calls are recorded as run to their end, and
whether a call was recorded as over its quota (`SumsUp`). A run whose steps are used up asked for
tools in every step, and was refused one in the last of them at most (`RunsOut`).

Both are invariants of `Unrolls`: a step adds one answer to those that were heard, and to the
records what its calls leave.
-/

set_option autoImplicit false

namespace AgentSessions

/-- The text of an answer, if it is not empty. -/
def ModelAnswer.text? : ModelAnswer → Option String
  | some (.ok response) => if response.content.isEmpty then none else some response.content
  | _ => none

/-- The answer of the model that was heard. -/
def Signal.heard? : Signal → Option ModelAnswer
  | heard answer => some answer
  | event _ => none

/-- The answers of the model for the steps of a run, in their order. -/
def answersOf (trace : List Exchange) : List ModelAnswer :=
  (trace.filterMap Exchange.signal?).filterMap Signal.heard?

namespace Engine

/-- The summary of a run with so many steps agrees with the answers that the run heard, with the
records that it added and with the session that it left. -/
structure SumsUp (limit : UInt32) (answers : List ModelAnswer) (records : List CallRecord)
    (session : Session) (s : RunSummary) : Prop where
  steps : s.steps.toNat = answers.length
  bounds : 1 ≤ answers.length ∧ answers.length ≤ limit.toNat
  toolCalls : s.toolCalls = UInt32.ofNat (records.countP CallRecord.executed)
  /-- The answer is the last word, and calls no tools. -/
  text : ∃ now, session.turns.getLast? = some (.assistant s.text now)
  forced : s.forcedFinalAnswer = true ↔ ∃ r ∈ records, r.outcome = .quotaExceeded
  quotaExhausted : s.stopReason = .quotaExhausted ↔ ∃ r ∈ records, r.outcome = .quotaExceeded
  finalAnswer : s.stopReason ≠ .quotaExhausted → s.stopReason = .finalAnswer

/-- A run with so many steps used them up, as it reports with `limit'` and `text`. -/
structure RunsOut (limit : UInt32) (answers : List ModelAnswer) (records : List CallRecord)
    (limit' : UInt32) (text : Option String) : Prop where
  reported : limit' = limit
  steps : answers.length = limit.toNat
  calling : ∀ answer ∈ answers, ∃ response : ModelResponse,
    answer = some (.ok response) ∧ response.hasToolCalls = true
  quota : ∀ r ∈ records, r.outcome = .quotaExceeded → r.step = limit
  text : text = (answers.filterMap ModelAnswer.text?).getLast?

/-! ## What a step adds -/

theorem heard_events (events : List EventBody) :
    (events.map Signal.event).filterMap Signal.heard? = [] := by
  rw [List.filterMap_map]
  exact List.filterMap_eq_nil_iff.mpr fun _ _ => rfl

/-- The calls of a step are not answered by the model. -/
theorem ClearsAll.heard {calls : List ToolCall} {st st' : RunState} {ss : List Signal}
    (h : ClearsAll calls st ss st') : ss.filterMap Signal.heard? = [] := by
  obtain ⟨records, events, rfl, -⟩ := h
  exact heard_events events

/-- One answer more is heard in a step whose calls are resolved. -/
theorem ClearsAll.heard_step {step : UInt32} {response : ModelResponse} {st st' : RunState}
    {ss : List Signal} (h : ClearsAll response.toolCalls st ss st') (rest : List Signal) :
    (.event (.stepStart step) :: .heard (some (.ok response)) :: (ss ++ rest)).filterMap
        Signal.heard? = some (.ok response) :: rest.filterMap Signal.heard? := by
  have hrest : (ss ++ rest).filterMap Signal.heard? = rest.filterMap Signal.heard? := by
    rw [List.filterMap_append, h.heard, List.nil_append]
  calc
    (.event (.stepStart step) :: .heard (some (.ok response)) :: (ss ++ rest)).filterMap
        Signal.heard? = some (.ok response) :: (ss ++ rest).filterMap Signal.heard? := rfl
    _ = some (.ok response) :: rest.filterMap Signal.heard? := by rw [hrest]

/-- What the calls of a step add to a state in which the model may use tools. -/
theorem ClearsAll.adds {response : ModelResponse} {now : Instant} {st st' : RunState}
    {ss : List Signal} (hforced : st.forced = false)
    (h : ClearsAll response.toolCalls (st.next.addCalls response now) ss st') :
    ∃ records : List CallRecord, st'.session.records = st.session.records ++ records ∧
      st'.steps = st.steps + 1 ∧ st'.executed = st.executed + records.countP CallRecord.executed ∧
      st'.lastText = (ModelAnswer.text? (some (.ok response))).or st.lastText ∧
      (∀ r ∈ records, r.step = .ofNat (st.steps + 1)) ∧
      (st'.forced = true ↔ ∃ r ∈ records, r.outcome = .quotaExceeded) := by
  obtain ⟨records, events, -, hresolutions, htallies, hquota⟩ := h
  have hfree : (st.next.addCalls response now).forced = false := hforced
  have htext : (st.next.addCalls response now).lastText =
      (ModelAnswer.text? (some (.ok response))).or st.lastText := by
    show (if response.content.isEmpty then st.lastText else some response.content) =
      (if response.content.isEmpty then none else some response.content).or st.lastText
    cases response.content.isEmpty <;> rfl
  rw [hfree] at hquota
  refine ⟨records, htallies.records, htallies.steps, htallies.executed,
    htallies.lastText.trans htext, hresolutions.step_of_mem, ?_⟩
  simpa using hquota

/-- A run leaves the records that there were, and adds to them. -/
theorem Unrolls.records {limit : UInt32} {st : RunState} {ss : List Signal} {c : Conclusion}
    (h : Unrolls limit st ss c) : ∃ records, c.1.records = st.session.records ++ records := by
  induction h with
  | stops hrecords _ => exact ⟨[], by rw [hrecords, List.append_nil]⟩
  | @last st answer c _ hlast =>
      refine ⟨[], ?_⟩
      rw [List.append_nil]
      cases hlast with
      | cancelled hrecords _ => exact hrecords
      | failed hrecords _ => exact hrecords
      | accepted _ hsession _ =>
          rw [hsession]
          rfl
  | step _ _ hforced hclears _ ih =>
      obtain ⟨records, hrecords, -⟩ := hclears.adds hforced
      obtain ⟨more, hmore⟩ := ih
      exact ⟨records ++ more, by rw [hmore, hrecords, List.append_assoc]⟩

/-! ## How often the model is asked -/

theorem Unrolls.asked_le {limit : UInt32} {st : RunState} {ss : List Signal} {c : Conclusion}
    (h : Unrolls limit st ss c) (hsteps : st.steps ≤ limit.toNat) :
    st.steps + (ss.filterMap Signal.heard?).length ≤ limit.toNat := by
  induction h with
  | stops _ _ => exact hsteps
  | last hless _ => exact hless
  | @step st st' response now ss rest c hless _ hforced hclears _ ih =>
      obtain ⟨records, -, htaken, -⟩ := hclears.adds hforced
      have hrest := ih (by omega)
      rw [hclears.heard_step, List.length_cons]
      omega

theorem Plays.heard {setup : Setup} {session : Session} {ss : List Signal} {c : Conclusion}
    (h : Plays setup session ss c) :
    ∃ (s : Session) (steps : List Signal), s.records = session.records ∧
      ss.filterMap Signal.heard? = steps.filterMap Signal.heard? ∧
      Unrolls setup.settings.maxSteps (.start s) steps c := by
  obtain ⟨s, compaction, steps, hrecords, rfl, hunrolls⟩ := h
  refine ⟨s, steps, hrecords, ?_, hunrolls⟩
  have hcompaction : (compaction.toList.map (Signal.event ∘ compactionEvent)).filterMap
      Signal.heard? = [] := by
    rw [← List.map_map]
    exact heard_events _
  have hclosing : [Signal.event (closingEvent c.2)].filterMap Signal.heard? = [] := rfl
  have hstart : ∀ more : List Signal, (.event .runStart :: more).filterMap Signal.heard? =
      more.filterMap Signal.heard? := fun _ => rfl
  rw [hstart, List.filterMap_append, List.filterMap_append, hcompaction, hclosing,
    List.nil_append, List.append_nil]

/-- Every path through a run asks the model at most as often as the run has steps. -/
theorem length_answersOf_le {setup : Setup} {session : Session} {prompt : String}
    {trace : List Exchange} {rest : Dialogue Conclusion}
    (hpath : (run setup session prompt).Leads trace rest) :
    (answersOf trace).length ≤ setup.settings.maxSteps.toNat := by
  obtain ⟨more, c, hmore⟩ := rest.leads_done
  have hplays := (signals_run setup session prompt).of_leads (hpath.trans hmore)
  obtain ⟨s, steps, -, hheard, hunrolls⟩ := hplays.heard
  have hle := hunrolls.asked_le (Nat.zero_le _)
  have hstart : (RunState.start s).steps = 0 := rfl
  rw [hstart, Nat.zero_add, ← hheard, List.filterMap_append, List.filterMap_append,
    List.length_append] at hle
  exact Nat.le_trans (Nat.le_add_right _ _) hle

/-! ## Runs that are answered -/

/-- The invariant behind `SumsUp`: the counters of the state are where the run begins to count. -/
structure SumsUpFrom (st : RunState) (answers : List ModelAnswer) (records : List CallRecord)
    (session : Session) (s : RunSummary) : Prop where
  steps : s.steps = .ofNat (st.steps + answers.length)
  asked : 1 ≤ answers.length
  toolCalls : s.toolCalls = .ofNat (st.executed + records.countP CallRecord.executed)
  text : ∃ now, session.turns.getLast? = some (.assistant s.text now)
  forced : s.forcedFinalAnswer = true ↔
    st.forced = true ∨ ∃ r ∈ records, r.outcome = .quotaExceeded
  stopReason : s.stopReason = if s.forcedFinalAnswer then .quotaExhausted else .finalAnswer

theorem SumsUpFrom.sumsUp {limit : UInt32} {s session : Session} {answers : List ModelAnswer}
    {records : List CallRecord} {summary : RunSummary}
    (h : SumsUpFrom (.start s) answers records session summary)
    (hle : answers.length ≤ limit.toNat) : SumsUp limit answers records session summary := by
  have hbegun : (RunState.start s).steps + answers.length = answers.length := Nat.zero_add _
  have hidle : (RunState.start s).executed + records.countP CallRecord.executed =
      records.countP CallRecord.executed := Nat.zero_add _
  have hforced : summary.forcedFinalAnswer = true ↔
      ∃ r ∈ records, r.outcome = .quotaExceeded := by
    rw [h.forced]
    simp [RunState.start]
  have hreason := h.stopReason
  refine ⟨?_, ⟨h.asked, hle⟩, ?_, h.text, hforced, ?_, ?_⟩
  · have hfits : answers.length < 2 ^ 32 := Nat.lt_of_le_of_lt hle limit.toNat_lt
    rw [h.steps, hbegun, UInt32.toNat_ofNat_of_lt' hfits]
  · rw [h.toolCalls, hidle]
  · rw [← hforced, hreason]
    cases summary.forcedFinalAnswer <;> simp
  · rw [hreason]
    cases summary.forcedFinalAnswer <;> simp

theorem Unrolls.sumsUp {limit : UInt32} {st : RunState} {ss : List Signal} {c : Conclusion}
    (h : Unrolls limit st ss c) {s : RunSummary} (hok : c.2 = .ok s) :
    ∃ records, c.1.records = st.session.records ++ records ∧
      SumsUpFrom st (ss.filterMap Signal.heard?) records c.1 s := by
  -- only a run that ends with an accepted answer has a summary to agree with
  induction h with
  | stops _ hstops =>
      rw [hok] at hstops
      cases hstops
  | @last st answer c _ hlast =>
      cases hlast with
      | cancelled _ hresult =>
          rw [hok] at hresult
          cases hresult
      | failed _ hresult =>
          rw [hok] at hresult
          cases hresult
      | @accepted response now c _ hsession hresult =>
          rcases hresult with hsummary | ⟨e, he⟩
          · rw [hok] at hsummary
            cases hsummary
            refine ⟨[], ?_, rfl, Nat.le_refl 1, rfl, ⟨now, ?_⟩, ?_, rfl⟩
            · rw [hsession, List.append_nil]
              rfl
            · rw [hsession]
              exact List.getLast?_concat
            · show st.forced = true ↔ _
              simp
          · rw [hok] at he
            cases he
  | @step st st' response now ss rest c _ _ hforced hclears _ ih =>
      obtain ⟨records, hrecords, htaken, hexecuted, -, -, hquota⟩ := hclears.adds hforced
      -- the step comes in front of what the rest of the run sums up
      obtain ⟨more, hmore, hsums⟩ := ih hok
      rw [hclears.heard_step]
      refine ⟨records ++ more, ?_, ?_, Nat.le_add_left 1 _, ?_, hsums.text, ?_, hsums.stopReason⟩
      · rw [hmore, hrecords, List.append_assoc]
      · rw [hsums.steps, htaken, List.length_cons, Nat.add_assoc, Nat.add_comm 1]
      · rw [hsums.toolCalls, hexecuted, List.countP_append, Nat.add_assoc]
      · rw [hsums.forced, hquota, hforced]
        simp [or_and_right, exists_or]

/-! ## Runs whose steps are used up -/

/-- The last text of answers behind one more, if there is one. -/
theorem getLast?_texts_cons (answer : ModelAnswer) (answers : List ModelAnswer)
    (before : Option String) :
    ((answers.filterMap ModelAnswer.text?).getLast?).or (answer.text?.or before) =
      (((answer :: answers).filterMap ModelAnswer.text?).getLast?).or before := by
  cases htext : answer.text? with
  | none => rw [List.filterMap_cons_none htext, Option.none_or]
  | some text =>
      rw [List.filterMap_cons_some htext, List.getLast?_cons]
      cases (answers.filterMap ModelAnswer.text?).getLast? <;> rfl

/-- The invariant behind `RunsOut`, from a state on. -/
structure RunsOutFrom (limit : UInt32) (st : RunState) (answers : List ModelAnswer)
    (records : List CallRecord) (limit' : UInt32) (text : Option String) : Prop where
  reported : limit' = limit
  steps : st.steps + answers.length = limit.toNat
  calling : ∀ answer ∈ answers, ∃ response : ModelResponse,
    answer = some (.ok response) ∧ response.hasToolCalls = true
  /-- A model that has to answer without tools gives the run an answer, if it is asked. -/
  winds : st.forced = true → answers = []
  quota : ∀ r ∈ records, r.outcome = .quotaExceeded → r.step = limit
  text : text = ((answers.filterMap ModelAnswer.text?).getLast?).or st.lastText

theorem RunsOutFrom.runsOut {limit limit' : UInt32} {s : Session} {answers : List ModelAnswer}
    {records : List CallRecord} {text : Option String}
    (h : RunsOutFrom limit (.start s) answers records limit' text) :
    RunsOut limit answers records limit' text where
  reported := h.reported
  steps := (Nat.zero_add _).symm.trans h.steps
  calling := h.calling
  quota := h.quota
  text := h.text.trans Option.or_none

theorem Unrolls.runsOut {limit limit' : UInt32} {st : RunState} {ss : List Signal} {c : Conclusion}
    {text : Option String} (h : Unrolls limit st ss c)
    (hresult : c.2 = .error (.maxSteps limit' text)) :
    ∃ records, c.1.records = st.session.records ++ records ∧
      RunsOutFrom limit st (ss.filterMap Signal.heard?) records limit' text := by
  induction h with
  | @stops st c hrecords hstops =>
      rw [hresult] at hstops
      cases hstops with
      | exhausted hsteps =>
          refine ⟨[], by rw [hrecords, List.append_nil], rfl, hsteps, ?_, fun _ => rfl, ?_, rfl⟩
          · intro answer hanswer
            cases hanswer
          · intro r hr
            cases hr
  | @last st answer c _ hlast =>
      cases hlast with
      | cancelled _ hcancelled =>
          rw [hresult] at hcancelled
          cases hcancelled
      | failed _ hfailed =>
          rw [hresult] at hfailed
          cases hfailed
      | accepted _ _ haccepted =>
          rw [hresult] at haccepted
          rcases haccepted with haccepted | ⟨e, haccepted⟩ <;> cases haccepted
  | @step st st' response now ss rest c _ hcalls hforced hclears _ ih =>
      obtain ⟨records, hrecords, htaken, -, htext, hnumbered, hquota⟩ := hclears.adds hforced
      obtain ⟨more, hmore, hout⟩ := ih hresult
      have hsteps := hout.steps
      rw [htaken] at hsteps
      rw [hclears.heard_step]
      refine ⟨records ++ more, ?_, hout.reported, ?_, ?_, ?_, ?_, ?_⟩
      · rw [hmore, hrecords, List.append_assoc]
      · rw [List.length_cons]
        omega
      · intro answer hanswer
        rcases List.mem_cons.mp hanswer with rfl | hanswer
        · exact ⟨response, rfl, hcalls⟩
        · exact hout.calling answer hanswer
      · intro h
        rw [hforced] at h
        cases h
      · intro r hr hexceeded
        rcases List.mem_append.mp hr with hr | hr
        -- a refusal leaves the run no further step that calls tools
        · have hrest := hout.winds (hquota.mpr ⟨r, hr, hexceeded⟩)
          rw [hrest] at hsteps
          have hfull : st.steps + 1 = limit.toNat := hsteps
          rw [hnumbered r hr, hfull, UInt32.ofNat_toNat]
        · exact hout.quota r hr hexceeded
      · rw [hout.text, htext, getLast?_texts_cons]

/-! ## The whole run -/

/-- **Runs are bounded, and their summaries tell the truth.** Whatever a run is answered, it asks
the model at most as often as it has steps and comes to its end. If it is answered, the summary
agrees with what was heard and recorded; if its steps are used up, it asked for tools in each. -/
theorem runs_bounded_and_summed_up (setup : Setup) (session : Session) (prompt : String) :
    (∀ trace rest, (run setup session prompt).Leads trace rest →
      (answersOf trace).length ≤ setup.settings.maxSteps.toNat) ∧
    (∀ reply : Nat → (question : Ask) → question.Answer, ∃ trace c,
      (run setup session prompt).play reply 0 = (trace, c) ∧
      (run setup session prompt).Leads trace (.done c)) ∧
    ∀ trace c, (run setup session prompt).Leads trace (.done c) →
      ∃ records, c.1.records = session.records ++ records ∧
        (∀ s, c.2 = .ok s →
          SumsUp setup.settings.maxSteps (answersOf trace) records c.1 s) ∧
        ∀ limit text, c.2 = .error (.maxSteps limit text) →
          RunsOut setup.settings.maxSteps (answersOf trace) records limit text := by
  refine ⟨fun trace rest => length_answersOf_le, fun reply => ?_, fun trace c hpath => ?_⟩
  · exact ⟨_, _, rfl, Dialogue.leads_play reply 0 _⟩
  · have hplays := (signals_run setup session prompt).of_leads hpath
    obtain ⟨s, steps, hrecords, hheard, hunrolls⟩ := hplays.heard
    have hanswers : answersOf trace = steps.filterMap Signal.heard? := hheard
    have hstart : (RunState.start s).session.records = session.records := hrecords
    obtain ⟨records, hadded⟩ := hunrolls.records
    refine ⟨records, hadded.trans (congrArg (· ++ records) hstart), ?_, ?_⟩
    · intro summary hresult
      obtain ⟨records', hadded', hsums⟩ := hunrolls.sumsUp hresult
      -- both are what the run has added, so they are the same records
      obtain rfl : records' = records := List.append_cancel_left (hadded'.symm.trans hadded)
      rw [← hanswers] at hsums
      exact hsums.sumsUp (length_answersOf_le hpath)
    · intro limit text hresult
      obtain ⟨records', hadded', hout⟩ := hunrolls.runsOut hresult
      obtain rfl : records' = records := List.append_cancel_left (hadded'.symm.trans hadded)
      rw [← hanswers] at hout
      exact hout.runsOut

/-- The model calls the same two tools whenever it is asked, and they are there. -/
def insisting : Nat → (question : Ask) → question.Answer
  | _, .chat _ => some (.ok ⟨"looking", [look "a", look "b"], none⟩)
  | _, .execute _ _ _ => some (.ok "seen")
  | _, question => Dialogue.idleAnswer question

/-- An engine with so many steps whose tools may each be called once in a run. -/
def frugal (maxSteps : UInt32) : Setup :=
  { Setup.plain with
    settings := { (default : EngineSettings) with maxSteps, defaultToolQuota := ⟨some 1, none⟩ } }

/-- What comes of a run with so many steps in which the second call is over its quota. -/
def frugalRun (maxSteps : UInt32) : List Exchange × Conclusion :=
  (run (frugal maxSteps) (.empty ⟨"s"⟩) "go on").play insisting 0

/-- With two steps the run is answered, and with one it is not. -/
theorem frugal_runs_bounded_and_summed_up :
    (∃ records, SumsUp 2 (answersOf (frugalRun 2).1) records (frugalRun 2).2.1
      ⟨"looking", 2, 1, .quotaExhausted, true⟩) ∧
    ∃ records, RunsOut 1 (answersOf (frugalRun 1).1) records 1 (some "looking") := by
  have hpath : ∀ n, (run (frugal n) (.empty ⟨"s"⟩) "go on").Leads (frugalRun n).1
      (.done (frugalRun n).2) := fun n => Dialogue.leads_play insisting 0 _
  have hanswered : (frugalRun 2).2.2 = .ok ⟨"looking", 2, 1, .quotaExhausted, true⟩ := by rfl
  have hused : (frugalRun 1).2.2 = .error (.maxSteps 1 (some "looking")) := by rfl
  constructor
  · obtain ⟨records, -, hsums, -⟩ :=
      (runs_bounded_and_summed_up (frugal 2) (.empty ⟨"s"⟩) "go on").2.2 _ _ (hpath 2)
    exact ⟨records, hsums _ hanswered⟩
  · obtain ⟨records, -, -, hout⟩ :=
      (runs_bounded_and_summed_up (frugal 1) (.empty ⟨"s"⟩) "go on").2.2 _ _ (hpath 1)
    exact ⟨records, hout _ _ hused⟩

end Engine

end AgentSessions
