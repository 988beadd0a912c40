import AgentSessions.Orchestration.Service
import AgentSessions.Proofs.Engine.Summary
import AgentSessions.Simulation.Thread

/-!
# The events of a run

Whoever watches the events of a run can rely on their order: the run starts, its history may be
compacted, its steps follow with their numbers, and it ends (`RunWord`). A step starts, the model is
heard, and every call of its answer is resolved in turn, with its record; only the last step may
break off before that (`StepWord`). The answers of the model are kept between the events here, so
that the calls of a step are those that the model asked for.
-/

set_option autoImplicit false

namespace AgentSessions

open Simulation (advance Frame)

/-- The event of a signal. -/
def Signal.event? : Signal → Option EventBody
  | event body => some body
  | heard _ => none

/-- The events of a run, in their order. -/
def eventsOf (trace : List Exchange) : List EventBody :=
  (trace.filterMap Exchange.signal?).filterMap Signal.event?

/-- The tool and the outcome of a call that is settled. -/
def EventBody.ended? : EventBody → Option (String × CallOutcome)
  | toolEnd _ tool outcome => some (tool, outcome)
  | _ => none

/-- What a record says about the tool and the outcome of its call. -/
def CallRecord.ending (r : CallRecord) : String × CallOutcome :=
  (r.toolName, r.outcome)

namespace Engine

/-! ## Words of events -/

/-- How a run ends with an answer whose calls are not resolved. -/
inductive Unacted : ModelAnswer → Except RunError RunSummary → Prop where
  | cancelled : Unacted none (.error .cancelled)
  | failed (e : ModelError) : Unacted (some (.error e)) (.error (.model e))
  /-- The answer was accepted as the last word. -/
  | accepted {response : ModelResponse} {s : RunSummary} : s.text = response.content →
      Unacted (some (.ok response)) (.ok s)
  /-- It was accepted, and the session could not be saved with it. -/
  | unsaved (response : ModelResponse) (e : StoreError) :
      Unacted (some (.ok response)) (.error (.save e))

/-- The steps of a run that comes to this result, from the one with this number on, with the records
of their calls. -/
inductive StepWord (result : Except RunError RunSummary) :
    (number : Nat) → List Signal → List CallRecord → Prop where
  | done (number : Nat) : StepWord result number [] []
  | last {step : UInt32} {answer : ModelAnswer} : Unacted answer result →
      StepWord result step.toNat [.event (.stepStart step), .heard answer] []
  | step {step : UInt32} {response : ModelResponse} {events : List EventBody}
      {records more : List CallRecord} {rest : List Signal} : response.hasToolCalls = true →
      Resolutions step response.toolCalls records events →
      StepWord result (step.toNat + 1) rest more →
      StepWord result step.toNat
        (.event (.stepStart step) :: .heard (some (.ok response)) ::
          (events.map .event ++ rest))
        (records ++ more)

/-- The last event of a run tells of its result. -/
structure ClosesWith (result : Except RunError RunSummary) (last : EventBody) : Prop where
  answered : ∀ steps reason, last = .runEnd steps reason ↔
    ∃ s : RunSummary, result = .ok s ∧ s.steps = steps ∧ s.stopReason.name = reason
  failed : ∀ error category, last = .runFailed error category ↔
    ∃ e : RunError, result = .error e ∧ e.message = error ∧ e.category = category

/-- What is signalled by a run that comes to this result and adds these records. -/
def RunWord (ss : List Signal) (result : Except RunError RunSummary) (records : List CallRecord) :
    Prop :=
  ∃ (compactions : List EventBody) (steps : List Signal) (last : EventBody),
    ss = .event .runStart :: (compactions.map .event ++ (steps ++ [.event last])) ∧
    compactions.length ≤ 1 ∧
    (∀ body ∈ compactions, ∃ before after truncated,
      body = .compactionComplete before after truncated) ∧
    StepWord result 1 steps records ∧ ClosesWith result last

theorem closesWith_closingEvent (result : Except RunError RunSummary) :
    ClosesWith result (closingEvent result) := by
  constructor
  · intro steps reason
    cases result with
    | ok s =>
        show EventBody.runEnd s.steps s.stopReason.name = _ ↔ _
        simp
    | error e =>
        show EventBody.runFailed e.message e.category = _ ↔ _
        simp
  · intro error category
    cases result with
    | ok s =>
        show EventBody.runEnd s.steps s.stopReason.name = _ ↔ _
        simp
    | error e =>
        show EventBody.runFailed e.message e.category = _ ↔ _
        simp

/-! ## Runs signal such words -/

theorem LastWord.unacted {st : RunState} {answer : ModelAnswer} {c : Conclusion}
    (h : LastWord st answer c) : c.1.records = st.session.records ∧ Unacted answer c.2 := by
  obtain ⟨session, result⟩ := c
  cases h with
  | cancelled hrecords hresult =>
      obtain rfl : result = .error .cancelled := hresult
      exact ⟨hrecords, .cancelled⟩
  | @failed e _ hrecords hresult =>
      obtain rfl : result = .error (.model e) := hresult
      exact ⟨hrecords, .failed e⟩
  | @accepted response now _ _ hsession hresult =>
      obtain rfl : session = st.session.addTurn (.assistant response.content now) := hsession
      rcases hresult with hsummary | ⟨e, he⟩
      · obtain rfl : result = .ok (summaryOf response.content st) := hsummary
        exact ⟨rfl, .accepted rfl⟩
      · obtain rfl : result = .error (.save e) := he
        exact ⟨rfl, .unsaved response e⟩

theorem Unrolls.stepWord {limit : UInt32} {st : RunState} {ss : List Signal} {c : Conclusion}
    (h : Unrolls limit st ss c) :
    ∃ records, c.1.records = st.session.records ++ records ∧
      StepWord c.2 (st.steps + 1) ss records := by
  -- the number of a step that is still within the limit fits into its event
  have hnumber : ∀ {st : RunState}, st.steps < limit.toNat →
      st.next.step.toNat = st.steps + 1 := by
    intro st hless
    have hlimit := limit.toNat_lt
    exact UInt32.toNat_ofNat_of_lt' (by show st.steps + 1 < 2 ^ 32; omega)
  induction h with
  | stops hrecords _ => exact ⟨[], by rw [hrecords, List.append_nil], .done _⟩
  | @last st answer c hless hlast =>
      obtain ⟨hrecords, hunacted⟩ := hlast.unacted
      refine ⟨[], by rw [hrecords, List.append_nil]; rfl, ?_⟩
      rw [← hnumber hless]
      exact .last hunacted
  | @step st st' response now ss rest c hless hcalls hforced hclears _ ih =>
      obtain ⟨records, events, rfl, hresolutions, htallies, -⟩ := hclears
      obtain ⟨more, hmore, hword⟩ := ih
      have hadded : st'.session.records = st.session.records ++ records := htallies.records
      have hsteps : st'.steps = st.steps + 1 := htallies.steps
      refine ⟨records ++ more, by rw [hmore, hadded, List.append_assoc], ?_⟩
      rw [hsteps, ← hnumber hless] at hword
      rw [← hnumber hless]
      exact .step hcalls hresolutions hword

theorem Plays.runWord {setup : Setup} {session : Session} {ss : List Signal} {c : Conclusion}
    (h : Plays setup session ss c) :
    ∃ records, c.1.records = session.records ++ records ∧ RunWord ss c.2 records := by
  obtain ⟨s, compaction, steps, hrecords, rfl, hunrolls⟩ := h
  obtain ⟨records, hadded, hword⟩ := hunrolls.stepWord
  have hstart : (RunState.start s).session.records = session.records := hrecords
  rw [hstart] at hadded
  refine ⟨records, hadded, compaction.toList.map compactionEvent, steps, _, ?_, ?_, ?_, hword,
    closesWith_closingEvent c.2⟩
  · rw [List.map_map]
  · rw [List.length_map]
    exact Option.length_toList_le
  · intro body hbody
    obtain ⟨r, -, rfl⟩ := List.mem_map.mp hbody
    exact ⟨_, _, _, rfl⟩

/-! ## Events and records -/

theorem Resolution.ended {call : ToolCall} {outcome : CallOutcome} {events : List EventBody}
    (h : Resolution call outcome events) :
    events.filterMap EventBody.ended? = [(call.name, outcome)] := by
  cases h with
  | unstarted _ => rfl
  | refused limit => rfl
  | started _ => rfl

theorem Resolutions.ended {step : UInt32} {calls : List ToolCall} {records : List CallRecord}
    {events : List EventBody} (h : Resolutions step calls records events) :
    events.filterMap EventBody.ended? = records.map CallRecord.ending := by
  induction h with
  | nil => rfl
  | @cons call r calls records events more hname _ hresolution _ ih =>
      have hone : events.filterMap EventBody.ended? = [r.ending] := by
        rw [hresolution.ended, ← hname]
        rfl
      rw [List.filterMap_append, hone, ih]
      rfl

theorem event?_events (events : List EventBody) :
    (events.map Signal.event).filterMap Signal.event? = events := by
  rw [List.filterMap_map]
  exact List.filterMap_some

theorem StepWord.ended {result : Except RunError RunSummary} {number : Nat} {ss : List Signal}
    {records : List CallRecord} (h : StepWord result number ss records) :
    (ss.filterMap Signal.event?).filterMap EventBody.ended? = records.map CallRecord.ending := by
  induction h with
  | done number => rfl
  | last _ => rfl
  | @step step response events records more rest _ hresolutions _ ih =>
      have hevents : ((events.map Signal.event ++ rest).filterMap Signal.event?).filterMap
          EventBody.ended? = (records ++ more).map CallRecord.ending := by
        rw [List.filterMap_append, event?_events, List.filterMap_append, hresolutions.ended, ih,
          List.map_append]
      exact hevents

theorem RunWord.ended {ss : List Signal} {result : Except RunError RunSummary}
    {records : List CallRecord} (h : RunWord ss result records) :
    (ss.filterMap Signal.event?).filterMap EventBody.ended? = records.map CallRecord.ending := by
  obtain ⟨compactions, steps, last, rfl, -, hcompactions, hword, hcloses⟩ := h
  have hquiet : compactions.filterMap EventBody.ended? = [] := by
    refine List.filterMap_eq_nil_iff.mpr ?_
    intro body hbody
    obtain ⟨before, after, truncated, rfl⟩ := hcompactions body hbody
    rfl
  have hlast : [last].filterMap EventBody.ended? = [] := by
    cases result with
    | ok s =>
        obtain rfl := (hcloses.answered s.steps s.stopReason.name).mpr ⟨s, rfl, rfl, rfl⟩
        rfl
    | error e =>
        obtain rfl := (hcloses.failed e.message e.category).mpr ⟨e, rfl, rfl, rfl⟩
        rfl
  have hlastEvent : [Signal.event last].filterMap Signal.event? = [last] := rfl
  have hstart : ∀ more : List Signal,
      ((.event .runStart :: more).filterMap Signal.event?).filterMap EventBody.ended? =
        (more.filterMap Signal.event?).filterMap EventBody.ended? := fun _ => rfl
  rw [hstart, List.filterMap_append, event?_events, List.filterMap_append, hquiet,
    List.filterMap_append, hlastEvent, List.filterMap_append, hword.ended, hlast, List.nil_append,
    List.append_nil]

end Engine

/-! ## The events of a whole run -/

/-- What an engine reports is published at once, as an event of its session, by the process that
serves it. -/
def Collaborators.PublishesReports {η : Type} (c : Collaborators η) (seat : Seat) : Prop :=
  ∀ (α : Type) (body : EventBody) (next : Unit → Dialogue α) (now : Nat)
    (frames : List (Frame (World η) α)) (w : World η),
    advance now (c.serve seat (.ask (.report body) next)) frames w =
      advance now (c.serve seat (next ())) frames (w.publish seat.session body now)

namespace Engine

/-- **The events of a run can be followed.** Whatever a run is answered, its events form a word:
start, one compaction at most, numbered steps with the resolutions of their calls in order, and one
event that tells how the run ended. The calls that are reported as ended are those of the records
that the run adds, one after another and with the same outcomes. -/
theorem events_form_word (setup : Setup) (session : Session) (prompt : String)
    {trace : List Exchange} {c : Conclusion}
    (hpath : (run setup session prompt).Leads trace (.done c)) :
    ∃ records, c.1.records = session.records ++ records ∧
      RunWord (trace.filterMap Exchange.signal?) c.2 records ∧
      (eventsOf trace).filterMap EventBody.ended? = records.map CallRecord.ending ∧
      ∀ (η : Type) (served : Collaborators η) (seat : Seat), served.PublishesReports seat := by
  have hplays := (signals_run setup session prompt).of_leads hpath
  obtain ⟨records, hadded, hword⟩ := hplays.runWord
  refine ⟨records, hadded, hword, hword.ended, ?_⟩
  intro η served seat α body next now frames w
  rfl

/-- A run of two steps: one call succeeds, one is refused, and the answer is forced. -/
theorem events_form_word_of_frugal_run :
    eventsOf (frugalRun 2).1 =
        [.runStart, .stepStart 1, .toolStart "a" "look", .toolEnd "a" "look" .succeeded,
          .quotaExceeded "look" 1, .toolEnd "b" "look" .quotaExceeded, .stepStart 2,
          .runEnd 2 "quota_exhausted"] ∧
      ∃ records, RunWord ((frugalRun 2).1.filterMap Exchange.signal?) (frugalRun 2).2.2 records ∧
        records.map CallRecord.ending = [("look", .succeeded), ("look", .quotaExceeded)] := by
  have hpath : (run (frugal 2) (.empty ⟨"s"⟩) "go on").Leads (frugalRun 2).1
      (.done (frugalRun 2).2) := Dialogue.leads_play insisting 0 _
  have hevents : eventsOf (frugalRun 2).1 =
      [.runStart, .stepStart 1, .toolStart "a" "look", .toolEnd "a" "look" .succeeded,
        .quotaExceeded "look" 1, .toolEnd "b" "look" .quotaExceeded, .stepStart 2,
        .runEnd 2 "quota_exhausted"] := by rfl
  obtain ⟨records, -, hword, hended, -⟩ :=
    events_form_word (frugal 2) (.empty ⟨"s"⟩) "go on" hpath
  refine ⟨hevents, records, hword, ?_⟩
  rw [← hended, hevents]
  rfl

end Engine

end AgentSessions
