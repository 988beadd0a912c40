import AgentSessions.Proofs.Dialogue.Token
import AgentSessions.Proofs.Engine.Compactors

/-!
# Runs that start cancelled

A run looks at its token when its first step begins. By then the prompt is in the history, and the
history is compacted if that is due. So a run whose token is tripped from the beginning takes no
step, but it is not without a trace: a compaction that is due folds the older turns, and its
summarizer may ask the model, which is not raced against the token then.
-/

set_option autoImplicit false

namespace AgentSessions

/-- What the model is asked, by a step or for a summary. -/
def Exchange.modelRequest? : Exchange → Option ModelRequest
  | ⟨.chat request, _⟩ => some request
  | ⟨.consult request, _⟩ => some request
  | _ => none

namespace Engine

open Dialogue (under_iff under_bind under_now under_report under_isCancelled under_pure does_pure
  calm_put)

/-! ## Before the first look at the token -/

/-- What a summarizer asks the model of the engine about turns. -/
def Summarizer.requests (summarizer : Summarizer) (turns : List Turn) (now : Instant) :
    List ModelRequest :=
  match summarizer with
  | .model => [Summary.request turns now]
  | .none | .keywords | .custom => []

theorem does_summarize {summarizer : Summarizer}
    {summarize : List Turn → Dialogue (Except SummarizerError String)}
    (hask : summarizer.ask? = some summarize) (turns : List Turn) :
    (summarize turns).Does Exchange.modelRequest? fun requests _ =>
      ∃ now, requests = summarizer.requests turns now := by
  cases summarizer with
  | none => cases hask
  | keywords =>
      cases hask
      exact does_pure ⟨default, rfl⟩
  | model =>
      cases hask
      exact fun now answer => ⟨now, rfl⟩
  | custom =>
      cases hask
      exact fun answer => ⟨default, rfl⟩

theorem does_summary? (summarizer : Summarizer) (turns : List Turn) :
    (Compaction.summary? summarizer.ask? turns).Does Exchange.modelRequest? fun requests _ =>
      ∃ now, requests = summarizer.requests turns now := by
  cases hask : summarizer.ask? with
  | none =>
      cases summarizer with
      | none => exact does_pure ⟨default, rfl⟩
      | keywords | model | custom => cases hask
  | some summarize =>
      refine (does_summarize hask turns).bind fun requests answer hrequests => ?_
      cases answer with
      | ok text => exact does_pure (by simpa using hrequests)
      | error e =>
          have hwarn : (MonadWarn.warn (.summarizationFailed e.message) : Dialogue Unit).Calm
              Exchange.modelRequest? fun _ => True := calm_put fun _ => rfl
          exact hwarn.then fun _ _ => does_pure (by simpa using hrequests)

/-- A history that is due is folded, and only a summarizer that works by the model asks it. -/
theorem does_compact {settings : CompactionSettings} {summarizer : Summarizer}
    {turns folded recent : List Turn}
    (hsplit : Compaction.split? settings turns = some (folded, recent)) :
    (Compaction.compact settings summarizer.ask? Dialogue.now turns).Does Exchange.modelRequest?
      fun requests r => (∃ now, requests = summarizer.requests folded now) ∧
        ∃ summary now, r = Compaction.fold settings folded recent summary now := by
  simp only [Compaction.compact, hsplit]
  refine (does_summary? summarizer folded).bind fun requests summary hrequests => ?_
  have hnow : Dialogue.now.Calm Exchange.modelRequest? fun _ => True := calm_put fun _ => rfl
  exact hnow.then fun now _ => does_pure ⟨by simpa using hrequests, summary, now, rfl⟩

/-! ## Once the token is looked at -/

/-- A run whose token is tripped ends where it looks, and says so in its history. -/
theorem under_loop_cancels (setup : Setup) (left : Nat) (st : RunState) :
    (loop setup left st).Under true fun ms _ c =>
      (exchanges ms).filterMap Exchange.modelRequest? = [] ∧
        ∃ now, c = (st.session.addTurn (.system "Run cancelled." now), .error .cancelled) := by
  have habort : (abort st.session).Under true fun ms _ c =>
      (exchanges (⟨⟨.isCancelled, true⟩, true, true⟩ :: ms)).filterMap
          Exchange.modelRequest? = [] ∧
        ∃ now, c = (st.session.addTurn (.system "Run cancelled." now), .error .cancelled) := by
    refine under_bind.mpr (under_now fun now saved t' _ => ?_)
    cases saved with
    | ok done => exact ⟨rfl, now, rfl⟩
    | error e => exact fun warned t'' _ => ⟨rfl, now, rfl⟩
  cases left with
  | zero => exact under_bind.mpr (under_isCancelled habort)
  | succ left => exact under_bind.mpr (under_isCancelled habort)

/-- The model is not asked by what is reported. -/
theorem unasked_report (body : EventBody) (t : Bool) :
    (exchanges [⟨⟨.report body, ()⟩, t, t⟩]).filterMap Exchange.modelRequest? = [] :=
  rfl

theorem under_run_cancels (setup : Setup) (session : Session) (prompt : String) :
    (run setup session prompt).Under true fun ms _ c => ∃ now now' turns asked,
      Prepares setup.compaction (session.turns ++ [.user prompt now]) asked turns ∧
      (exchanges ms).filterMap Exchange.modelRequest? = asked.filterMap Exchange.modelRequest? ∧
      c.1.turns = turns ++ [.system "Run cancelled." now'] ∧ c.1.records = session.records ∧
      c.2 = .error .cancelled := by
  refine under_bind.mpr (under_report (under_bind.mpr ?_))
  refine under_bind.mpr (under_now fun now => ?_)
  let started : Session := { session with counts := session.counts.startRun }
  have hcompacts := keeps_compactIfDue setup (started.addTurn (.user prompt now))
  refine (Dialogue.Keeps.under hcompacts true).bind fun ms t s hs => ?_
  obtain ⟨⟨asked, compaction, hexchanges, hsame, hprepares⟩, hunbroken⟩ := hs
  obtain rfl := hunbroken.stays rfl
  have hreports : (compaction.toList.map fun r =>
      (⟨.report (compactionEvent r), ()⟩ : Exchange)).filterMap Exchange.modelRequest? = [] := by
    cases compaction <;> rfl
  -- the run ends where it looks at the token, so only the compactor can have asked the model
  refine (under_loop_cancels setup _ (.start s)).mono fun ms' t' c hc => ?_
  obtain ⟨hunasked, now', rfl⟩ := hc
  refine under_bind.mpr (under_report (under_pure ?_))
  refine ⟨now, now', s.turns, asked, hprepares, ?_, rfl, ?_, rfl⟩
  · simp only [exchanges_append, List.filterMap_append, hexchanges, hreports, hunasked,
      unasked_report, List.append_nil]
    rfl
  · rw [hsame]
    rfl

/-! ## What is left of the run -/

/-- The run leaves nothing but a record of itself: nobody asks the model, and the session is as it
was but for the prompt and the word that the run was cancelled. -/
structure RecordsItself (session : Session) (prompt : String) (trace : List Exchange)
    (c : Conclusion) : Prop where
  cancelled : c.2 = .error .cancelled
  unasked : trace.filterMap Exchange.modelRequest? = []
  turns : ∃ now now',
    c.1.turns = session.turns ++ [.user prompt now, .system "Run cancelled." now']
  records : c.1.records = session.records

/-- A run before which a history was folded has not left the history as it was. -/
theorem not_recordsItself_of_fold {settings : CompactionSettings} {session : Session}
    {prompt : String} {trace : List Exchange} {c : Conclusion} {folded recent : List Turn}
    {now now' : Instant}
    (hsplit : Compaction.split? settings (session.turns ++ [.user prompt now]) =
      some (folded, recent)) {summary : Option String} {time : Instant}
    (hturns : c.1.turns = (Compaction.fold settings folded recent summary time).turns ++
      [.system "Run cancelled." now']) : ¬RecordsItself session prompt trace c := by
  intro hrecords
  obtain ⟨now₁, now₂, hplain⟩ := hrecords.turns
  have hsame : (Compaction.fold settings folded recent summary time).turns ++
      [.system "Run cancelled." now'] =
        (session.turns ++ [.user prompt now₁]) ++ [.system "Run cancelled." now₂] := by
    rw [← hturns, hplain, List.append_assoc]
    rfl
  obtain ⟨hfold, -⟩ := List.append_inj' hsame rfl
  -- the times of the two prompts may differ, but not which turns are summaries
  refine Compaction.map_summary_fold_ne hsplit summary time ?_
  rw [hfold, List.map_append, List.map_append]
  rfl

/-- **A run that starts cancelled compacts first.** Whatever the session and the compactor are, a
run whose token is tripped from the beginning is cancelled and leaves the records as they are. If
the history with the prompt is not due, the run records itself and nothing else. If it is, the
compactor does its work: all that the model is asked comes from it, and the history is what it
leaves, with the word that the run was cancelled. The compactor by settings folds the older turns
then, and asks the model for a summary if that is how it summarizes. -/
theorem cancelled_start_compacts_first {setup : Setup} {session : Session} {prompt : String}
    {ms : List Moment} {t' : Bool} {c : Conclusion} (hunbroken : Unbroken true ms t')
    (hpath : (run setup session prompt).Leads (exchanges ms) (.done c)) :
    c.2 = .error .cancelled ∧ c.1.records = session.records ∧ ∃ now now' turns asked,
      Prepares setup.compaction (session.turns ++ [.user prompt now]) asked turns ∧
      (exchanges ms).filterMap Exchange.modelRequest? = asked.filterMap Exchange.modelRequest? ∧
      c.1.turns = turns ++ [.system "Run cancelled." now'] ∧
      (isDueFor setup.compaction (session.turns ++ [.user prompt now]) = false →
        RecordsItself session prompt (exchanges ms) c) ∧
      ∀ settings summarizer, setup.compaction = some (.context settings summarizer) →
        Compaction.isDue settings (session.turns ++ [.user prompt now]) = true →
        ¬RecordsItself session prompt (exchanges ms) c ∧
        ∃ folded recent time,
          Compaction.split? settings (session.turns ++ [.user prompt now]) =
            some (folded, recent) ∧
          (exchanges ms).filterMap Exchange.modelRequest? = summarizer.requests folded time := by
  obtain ⟨now, now', turns, asked, hprepares, hasked, hturns, hrecords, hcancelled⟩ :=
    under_iff.mp (under_run_cancels setup session prompt) ms t' c hunbroken hpath
  refine ⟨hcancelled, hrecords, now, now', turns, asked, hprepares, hasked, hturns,
    fun hidle => ?_, ?_⟩
  · cases hprepares with
    | spared _ =>
        exact ⟨hcancelled, hasked, ⟨now, now', by rw [hturns, List.append_assoc]; rfl⟩, hrecords⟩
    | compacted hsome hdue _ =>
        rw [hsome, isDueFor, Option.any_some, hdue] at hidle
        cases hidle
  -- a history that is due has something to fold, and a folded history is another one
  · intro settings summarizer hcontext hdue
    obtain ⟨⟨folded, recent⟩, hsplit⟩ :=
      Option.isSome_iff_exists.mp (Compaction.isSome_split?_of_isDue hdue)
    cases hprepares with
    | spared hidle =>
        rw [hcontext, isDueFor, Option.any_some] at hidle
        cases hdue.symm.trans hidle
    | compacted hsome _ hcompact =>
        obtain rfl := Option.some.inj (hcontext.symm.trans hsome)
        obtain ⟨⟨time, hrequests⟩, summary, folding, rfl⟩ := (does_compact hsplit).of_leads hcompact
        exact ⟨not_recordsItself_of_fold hsplit hturns, folded, recent, time, hsplit,
          hasked.trans hrequests⟩

/-- A session in which something was said. -/
def greeted : Session :=
  ⟨⟨"s"⟩, [.user "hello" default, .assistant "hi" default], [], .none⟩

/-- An engine that has its model summarize. -/
def summarizing (settings : CompactionSettings) : Setup :=
  { Setup.plain with compaction := some (.context settings .model) }

/-- The answers to an engine whose token is tripped. -/
def trippedAnswer : (question : Ask) → question.Answer
  | .isCancelled => true
  | .consult _ => .ok ⟨"They said hello.", [], none⟩
  | question => Dialogue.idleAnswer question

/-- A run that starts cancelled. -/
def cancelledStart (settings : CompactionSettings) : List Exchange × Conclusion :=
  (run (summarizing settings) greeted "go on").play (fun _ => trippedAnswer) 0

/-- Its moments. -/
def cancelledMoments (settings : CompactionSettings) : List Moment :=
  (cancelledStart settings).1.map fun e => ⟨e, true, true⟩

theorem leads_cancelledStart (settings : CompactionSettings) :
    (run (summarizing settings) greeted "go on").Leads (exchanges (cancelledMoments settings))
      (.done (cancelledStart settings).2) := by
  have hexchanges : exchanges (cancelledMoments settings) = (cancelledStart settings).1 := by
    rw [exchanges, cancelledMoments, List.map_map]
    exact List.map_id _
  rw [hexchanges]
  exact Dialogue.leads_play (fun _ => trippedAnswer) 0 _

/-- A run that starts cancelled asks the model for a summary and folds the history, where this is
due. -/
theorem cancelled_start_asks_model :
    Unbroken true (cancelledMoments (Compaction.eager 2)) true ∧
      (run (summarizing (Compaction.eager 2)) greeted "go on").Leads
        (exchanges (cancelledMoments (Compaction.eager 2)))
        (.done (cancelledStart (Compaction.eager 2)).2) ∧
      (exchanges (cancelledMoments (Compaction.eager 2))).filterMap Exchange.modelRequest? =
        [Summary.request [.user "hello" default] default] ∧
      (cancelledStart (Compaction.eager 2)).2.1.turns.map Turn.summary =
        [true, false, false, false] ∧
      ¬RecordsItself greeted "go on" (exchanges (cancelledMoments (Compaction.eager 2)))
        (cancelledStart (Compaction.eager 2)).2 := by
  have hrequests : (exchanges (cancelledMoments (Compaction.eager 2))).filterMap
      Exchange.modelRequest? = [Summary.request [.user "hello" default] default] := by
    decide +kernel
  refine ⟨by decide +kernel, leads_cancelledStart _, hrequests, by decide +kernel, ?_⟩
  intro hrecords
  have hunasked := hrecords.unasked
  rw [hrequests] at hunasked
  cases hunasked

/-- Where it is not due, such a run records itself. -/
theorem cancelled_start_of_short_session :
    Unbroken true (cancelledMoments default) true ∧
      (run (summarizing default) greeted "go on").Leads (exchanges (cancelledMoments default))
        (.done (cancelledStart default).2) ∧
      RecordsItself greeted "go on" (exchanges (cancelledMoments default))
        (cancelledStart default).2 := by
  have hunbroken : Unbroken true (cancelledMoments default) true := by decide +kernel
  have hpath := leads_cancelledStart default
  refine ⟨hunbroken, hpath, ?_⟩
  obtain ⟨-, -, now, now', turns, asked, -, -, -, hidle, -⟩ :=
    cancelled_start_compacts_first hunbroken hpath
  -- the cost of the history does not depend on the time of the prompt
  have hcost : Tokens.ofTurns (greeted.turns ++ [.user "go on" now]) =
      Tokens.ofTurns (greeted.turns ++ [.user "go on" default]) := rfl
  have hcheap : ¬(default : CompactionSettings).triggerTokens.toNat <
      Tokens.ofTurns (greeted.turns ++ [.user "go on" default]) := by decide +kernel
  refine hidle ?_
  show Compaction.isDue default (greeted.turns ++ [.user "go on" now]) = false
  simp only [Compaction.isDue, hcost, hcheap, decide_false, Bool.and_false, Bool.false_and]

end Engine

end AgentSessions
