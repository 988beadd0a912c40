import AgentSessions.Proofs.Engine.Compactors
import AgentSessions.Proofs.History.Clocks

/-!
# Runs without their clocks

What an engine asks shows the clock in two ways: it asks for the time, and the turns that it sends
to the model and to the store carry times. Under a view of time both become what the view shows of
them (`Ask.retime`, `Ask.carry`). An engine does not act on the clock: a run over a session as the
view shows it puts the questions of the run over the session itself, as the view shows them, and
comes to the same end (`Engine.retimes_run`). `Dialogue.Retimes` says this of any two dialogues. It
is proved here for every function of the engine, along the way in which it is written.
-/

set_option autoImplicit false

namespace AgentSessions

open Json (Object)

variable (view : Instant → Instant)

/-! ## Questions and answers -/

namespace Engine

/-- The question as a view of time shows it. -/
def Ask.retime : Ask → Ask
  | .chat request => .chat (request.retime view)
  | .consult request => .consult (request.retime view)
  | .summarize turns => .summarize (turns.map (Turn.retime view))
  | .save snapshot => .save (snapshot.retime view)
  | question => question

/-- The answer to a question, for the question as a view of time shows it. -/
def Ask.carry : (question : Ask) → question.Answer → (question.retime view).Answer
  | .now, time => view time
  | .isCancelled, tripped => tripped
  | .chat _, answer => answer
  | .consult _, answer => answer
  | .summarize _, answer => answer
  | .check _ _, outcome => outcome
  | .confirm _, answer => answer
  | .execute _ _ _, outcome => outcome
  | .review _ _, outcome => outcome
  | .save _, answer => answer
  | .report _, done => done
  | .warn _, done => done

end Engine

namespace Dialogue

variable {α β γ δ : Type}

/-- The second dialogue asks what the first one asks and comes to what the first one comes to, as a
view of time shows it: a result `a` is shown as `g a`. -/
inductive Retimes (g : α → β) : Dialogue α → Dialogue β → Prop where
  | done (a : α) : Retimes g (.done a) (.done (g a))
  | ask {question : Engine.Ask} {next : question.Answer → Dialogue α}
      {next' : (question.retime view).Answer → Dialogue β} :
      (∀ answer, Retimes g (next answer) (next' (question.carry view answer))) →
      Retimes g (.ask question next) (.ask (question.retime view) next')

variable {view} {g : α → β} {k : γ → δ} {d : Dialogue α} {d' : Dialogue β}

theorem retimes_pure {a : α} {b : β} (h : b = g a) : Retimes view g (pure a) (pure b) := by
  rw [h]
  exact .done a

theorem Retimes.bind {f : α → Dialogue γ} {f' : β → Dialogue δ} (h : Retimes view g d d')
    (hf : ∀ a, Retimes view k (f a) (f' (g a))) : Retimes view k (d >>= f) (d' >>= f') := by
  induction h with
  | done a => exact hf a
  | ask _ ih => exact .ask ih

theorem Retimes.map {f : α → γ} {f' : β → δ} (h : Retimes view g d d')
    (hf : ∀ a, f' (g a) = k (f a)) : Retimes view k (f <$> d) (f' <$> d') :=
  h.bind fun a => retimes_pure (hf a)

theorem retimes_put (question : Engine.Ask) :
    Retimes view (question.carry view) (put question) (put (question.retime view)) :=
  .ask fun answer => Retimes.done (g := question.carry view) answer

theorem retimes_now : Retimes view view now now :=
  retimes_put .now

theorem retimes_isCancelled : Retimes view id isCancelled isCancelled :=
  retimes_put .isCancelled

theorem retimes_report (body : EventBody) : Retimes view id (report body) (report body) :=
  retimes_put (.report body)

/-- What bears on more than the opinion of others. -/
def weighty? (x : Exchange) : Option Unit :=
  if x.question.isOpinion then none else some ()

/-- Opinions are asked without showing the clock, so a dialogue that asks for nothing else is the
same under every view. -/
theorem retimes_self (h : d.Calm weighty? fun _ => True) : Retimes view id d d := by
  induction d with
  | done a => exact .done a
  | ask question next ih =>
      have hopinion : question.isOpinion = true := by
        -- there is an answer to follow, and then the question was left out of the marks
        obtain ⟨trace, a, hpath⟩ := (next (idleAnswer question)).leads_done
        have hnone := (h.of_leads (.on _ hpath)).1
        cases hkind : question.isOpinion with
        | true => rfl
        | false => simp [weighty?, hkind] at hnone
      have hnext : ∀ answer, Retimes view id (next answer) (next answer) := by
        intro answer
        have hnone : weighty? ⟨question, answer⟩ = none := if_pos hopinion
        refine ih answer ((h answer).mono fun trace a hmarks => ⟨?_, trivial⟩)
        rw [← hmarks.1, List.filterMap_cons_none hnone]
      cases question with
      | check | confirm | review | warn => exact .ask hnext
      | now | isCancelled | chat | consult | summarize | execute | save | report => cases hopinion

end Dialogue

namespace Engine

open Dialogue (Retimes retimes_pure retimes_put retimes_now retimes_isCancelled retimes_report
  retimes_self)

theorem overlooksOpinions_weighty? : OverlooksOpinions Dialogue.weighty? :=
  fun _ _ hopinion => if_pos hopinion

/-! ## States -/

/-- The state as a view of time shows it. -/
def RunState.retime (st : RunState) : RunState :=
  { st with session := st.session.retime view }

/-- The end of a run as a view of time shows it. -/
def Conclusion.retime (c : Conclusion) : Conclusion :=
  (c.1.retime view, c.2)

/-- What a step comes to, as a view of time shows it. -/
def StepResult.retime : StepResult → StepResult
  | .ended conclusion => .ended (Conclusion.retime view conclusion)
  | .next st => .next (st.retime view)

@[simp] theorem RunState.session_retime (st : RunState) :
    (st.retime view).session = st.session.retime view :=
  rfl

theorem RunState.counts_retime (st : RunState) :
    (st.retime view).session.counts = st.session.counts :=
  rfl

theorem RunState.retime_addTurn (st : RunState) (turn : Turn) :
    (st.addTurn turn).retime view = (st.retime view).addTurn (turn.retime view) := by
  simp [retime, addTurn]

theorem RunState.retime_addCalls (st : RunState) (response : ModelResponse) (now : Instant) :
    (st.addCalls response now).retime view = (st.retime view).addCalls response (view now) := by
  simp only [addCalls, retime, addTurn, Session.retime_addTurn]
  rfl

variable {view}

/-! ## Calls -/

theorem retimes_settle (call : ToolCall) (arguments : Object) (s : Settlement) (st : RunState) :
    Retimes view (RunState.retime view) (settle call arguments s st)
      (settle call arguments s (st.retime view)) := by
  refine retimes_now.bind fun now => ?_
  refine (retimes_report _).bind fun _ => retimes_pure ?_
  simp only [RunState.retime, Session.retime_addRecord, Session.retime_addTurn]
  rfl

theorem retimes_leave (s : Settlement) (calls : List ToolCall) (st : RunState) :
    Retimes view (RunState.retime view) (leave s calls st) (leave s calls (st.retime view)) := by
  induction calls generalizing st with
  | nil => exact retimes_pure rfl
  | cons call rest ih => exact (retimes_settle call call.arguments s st).bind ih

theorem retimes_execute (setup : Setup) (session : SessionId) (call : ToolCall)
    (arguments : Object) :
    Retimes view id (execute setup session call arguments)
      (execute setup session call arguments) := by
  refine (retimes_put (.execute call.name arguments call.id)).bind fun answer => ?_
  cases answer with
  | none => exact retimes_pure rfl
  | some result =>
      have hreview := calm_review overlooksOpinions_weighty? setup
        ⟨session, call.name, arguments, call.id, result⟩
      refine (retimes_self (hreview.mono fun _ _ => trivial)).bind fun reviewed => ?_
      exact retimes_pure rfl

/-- What a call comes to, and the state after it, as a view of time shows them. -/
def retimeSettled (view : Instant → Instant) (result : CallOutcome × RunState) :
    CallOutcome × RunState :=
  (result.1, result.2.retime view)

theorem retimes_runTool (setup : Setup) (call : ToolCall) (arguments : Object) (st : RunState) :
    Retimes view (retimeSettled view) (runTool setup call arguments st)
      (runTool setup call arguments (st.retime view)) := by
  refine (retimes_report _).bind fun _ => ?_
  refine (retimes_execute setup st.session.id call arguments).bind fun answer => ?_
  cases answer with
  | none =>
      refine (retimes_settle call arguments .interrupted st).bind fun st' => ?_
      exact retimes_pure rfl
  | some result =>
      have hsettle : Retimes view _ _ _ :=
        retimes_settle call arguments (.ran result) (st.countRun call.name)
      exact hsettle.bind fun st' => retimes_pure rfl

theorem retimes_handle (setup : Setup) (call : ToolCall) (st : RunState) :
    Retimes view (retimeSettled view) (handle setup call st)
      (handle setup call (st.retime view)) := by
  have hjudge := calm_judge overlooksOpinions_weighty? setup st.session.id call
  refine (retimes_self hjudge).bind fun verdict => ?_
  cases verdict with
  | deny reason arguments =>
      refine (retimes_settle call arguments (.denied reason) st).bind fun st' => ?_
      exact retimes_pure rfl
  | proceed arguments =>
      dsimp only [id]
      rw [RunState.counts_retime]
      cases st.session.counts.checkWith call.name setup.settings with
      | none => exact retimes_runTool setup call arguments st
      | some exceeded =>
          refine (retimes_report _).bind fun _ => ?_
          refine (retimes_settle call arguments (.overQuota call.name exceeded) st).bind
            fun st' => ?_
          exact retimes_pure rfl

/-- What the calls of an answer come to, as a view of time shows it. -/
def retimeResolved (view : Instant → Instant) (result : Bool × RunState) : Bool × RunState :=
  (result.1, result.2.retime view)

theorem retimes_resolve (setup : Setup) (calls : List ToolCall) (st : RunState) :
    Retimes view (retimeResolved view) (resolve setup calls st)
      (resolve setup calls (st.retime view)) := by
  induction calls generalizing st with
  | nil => exact retimes_pure rfl
  | cons call rest ih =>
      -- calls are left in the same way for either reason
      have hleave : ∀ (tripped : Bool) (s : Settlement) (calls : List ToolCall) (st : RunState),
          Retimes view (retimeResolved view)
            (do
              let st ← leave s calls st
              pure (tripped, st))
            (do
              let st ← leave s calls (st.retime view)
              pure (tripped, st)) :=
        fun tripped s calls st => (retimes_leave s calls st).bind fun st' => retimes_pure rfl
      refine retimes_isCancelled.bind fun tripped => ?_
      cases tripped with
      | true => exact hleave true .leftCancelled (call :: rest) st
      | false =>
          have hforced : (st.retime view).forced = st.forced := rfl
          dsimp only [id]
          rw [hforced]
          cases st.forced with
          | true => exact hleave false .leftOverQuota (call :: rest) st
          | false =>
              refine (retimes_handle setup call st).bind fun result => ?_
              obtain ⟨outcome, st'⟩ := result
              cases outcome with
              | cancelled => exact hleave true .leftCancelled rest st'
              | quotaExceeded => exact ih { st' with forced := true }
              | succeeded | failed | denied => exact ih st'

/-! ## The ends of a run -/

theorem retimes_saveIfPossible (session : Session) :
    Retimes view id (saveIfPossible session) (saveIfPossible (session.retime view)) := by
  refine (retimes_put (.save session.snapshot)).bind fun answer => ?_
  cases answer with
  | ok done => exact retimes_pure rfl
  | error e => exact retimes_put (.warn _)

theorem retimes_saveThen {α β : Type} {g : α → β} (session : Session) {failed : RunError → α}
    {failed' : RunError → β} {saved : α} {saved' : β} (hfailed : ∀ e, failed' e = g (failed e))
    (hsaved : saved' = g saved) :
    Retimes view g (saveThen session failed saved)
      (saveThen (session.retime view) failed' saved') := by
  refine (retimes_put (.save session.snapshot)).bind fun answer => ?_
  cases answer with
  | ok done => exact retimes_pure hsaved
  | error e => exact retimes_pure (hfailed (.save e))

/-- A turn is added with the time at which it is added. -/
theorem retimes_addTurn {α : Type} {g : α → α} {f : Session → Dialogue α} (session : Session)
    (turn : Instant → Turn) (hturn : ∀ now, turn (view now) = (turn now).retime view)
    (hf : ∀ s, Retimes view g (f s) (f (s.retime view))) :
    Retimes view g (Dialogue.now >>= fun now => f (session.addTurn (turn now)))
      (Dialogue.now >>= fun now => f ((session.retime view).addTurn (turn now))) := by
  refine retimes_now.bind fun now => ?_
  rw [hturn, ← Session.retime_addTurn]
  exact hf _

/-- The end of a run that was stopped. -/
theorem retimes_stop (result : Except RunError RunSummary) (session : Session) :
    Retimes view (Conclusion.retime view)
      (do
        saveIfPossible session
        pure (session, result))
      (do
        saveIfPossible (session.retime view)
        pure (session.retime view, result)) :=
  (retimes_saveIfPossible session).bind fun _ => retimes_pure rfl

theorem retimes_abort (session : Session) :
    Retimes view (Conclusion.retime view) (abort session) (abort (session.retime view)) :=
  retimes_addTurn session (.system "Run cancelled.") (fun _ => rfl)
    (retimes_stop (.error .cancelled))

theorem retimes_modelFailed (session : Session) (e : ModelError) :
    Retimes view (Conclusion.retime view) (modelFailed session e)
      (modelFailed (session.retime view) e) :=
  retimes_addTurn session (.system ("Run failed: " ++ e.message)) (fun _ => rfl)
    (retimes_stop (.error (.model e)))

/-- The end of a run that has to be saved. -/
theorem retimes_finish (result : Except RunError RunSummary) (session : Session) :
    Retimes view (Conclusion.retime view)
      (saveThen session (fun e => (session, .error e)) (session, result))
      (saveThen (session.retime view) (fun e => (session.retime view, .error e))
        (session.retime view, result)) :=
  retimes_saveThen session (fun _ => rfl) rfl

theorem retimes_exhausted (limit : UInt32) (st : RunState) :
    Retimes view (Conclusion.retime view) (exhausted limit st)
      (exhausted limit (st.retime view)) :=
  retimes_addTurn st.session (.assistant (exhaustedText limit)) (fun _ => rfl)
    (retimes_finish (.error (.maxSteps limit st.lastText)))

theorem retimes_answered (text : String) (st : RunState) :
    Retimes view (Conclusion.retime view) (answered text st) (answered text (st.retime view)) :=
  retimes_addTurn st.session (.assistant text) (fun _ => rfl)
    (retimes_finish (.ok (summaryOf text st)))

/-! ## Steps -/

theorem retimes_requestTurns (setup : Setup) (session : Session) :
    Retimes view (List.map (Turn.retime view)) (requestTurns setup session)
      (requestTurns setup (session.retime view)) := by
  unfold requestTurns
  cases setup.systemPrompt with
  | none => exact retimes_pure rfl
  | some prompt => exact retimes_now.bind fun now => retimes_pure rfl

theorem retimes_closeStep (setup : Setup) (st : RunState) :
    Retimes view (StepResult.retime view) (closeStep setup st)
      (closeStep setup (st.retime view)) := by
  have hsave : ∀ st' : RunState, Retimes view (StepResult.retime view)
      (saveThen st'.session (fun e => .ended (st'.session, .error e)) (.next st'))
      (saveThen (st'.retime view).session (fun e => .ended ((st'.retime view).session, .error e))
        (.next (st'.retime view))) :=
    fun st' => retimes_saveThen _ (fun _ => rfl) rfl
  have hforced : (st.retime view).forced = st.forced := rfl
  unfold closeStep
  rw [hforced]
  cases st.forced with
  | false => exact hsave st
  | true =>
      refine retimes_now.bind fun now => ?_
      refine Retimes.bind (g := RunState.retime view) (retimes_pure ?_) hsave
      exact (st.retime_addTurn view (.system setup.settings.forceFinalAnswerPrompt now)).symm

theorem retimes_act (setup : Setup) (response : ModelResponse) (st : RunState) :
    Retimes view (StepResult.retime view) (act setup response st)
      (act setup response (st.retime view)) := by
  refine retimes_now.bind fun now => ?_
  rw [← RunState.retime_addCalls]
  refine (retimes_resolve setup response.toolCalls _).bind fun result => ?_
  obtain ⟨tripped, st'⟩ := result
  cases tripped with
  | true => exact (retimes_abort st'.session).map fun _ => rfl
  | false => exact retimes_closeStep setup st'

theorem retimes_takeStep (setup : Setup) (st : RunState) :
    Retimes view (StepResult.retime view) (takeStep setup st)
      (takeStep setup (st.retime view)) := by
  refine (retimes_report _).bind fun _ => ?_
  refine (retimes_requestTurns setup st.session).bind fun turns => ?_
  refine (retimes_put (.chat ⟨turns, offered setup _⟩)).bind fun answer => ?_
  match answer with
  | none => exact (retimes_abort st.session).map fun _ => rfl
  | some (.error e) => exact (retimes_modelFailed st.session e).map fun _ => rfl
  | some (.ok response) =>
      have hforced : (st.retime view).forced = st.forced := rfl
      dsimp only [Ask.carry]
      rw [hforced]
      split
      · exact (retimes_answered response.content _).map fun _ => rfl
      · exact retimes_act setup response _

theorem retimes_unlessCancelled (session : Session) {next next' : Dialogue Conclusion}
    (hnext : Retimes view (Conclusion.retime view) next next') :
    Retimes view (Conclusion.retime view)
      (do if ← Dialogue.isCancelled then abort session else next)
      (do if ← Dialogue.isCancelled then abort (session.retime view) else next') := by
  refine retimes_isCancelled.bind fun tripped => ?_
  cases tripped with
  | true => exact retimes_abort session
  | false => exact hnext

theorem retimes_loop (setup : Setup) (left : Nat) (st : RunState) :
    Retimes view (Conclusion.retime view) (loop setup left st)
      (loop setup left (st.retime view)) := by
  induction left generalizing st with
  | zero =>
      exact retimes_unlessCancelled st.session (retimes_exhausted setup.settings.maxSteps st)
  | succ left ih =>
      refine retimes_unlessCancelled st.session ?_
      refine (retimes_takeStep setup st).bind fun result => ?_
      cases result with
      | ended conclusion => exact retimes_pure rfl
      | next st' => exact ih st'

/-! ## Compaction -/

theorem retimes_summarize {summarizer : Summarizer}
    {summarize : List Turn → Dialogue (Except SummarizerError String)}
    (hask : summarizer.ask? = some summarize) (turns : List Turn) :
    Retimes view id (summarize turns) (summarize (turns.map (Turn.retime view))) := by
  cases summarizer with
  | none => cases hask
  | keywords =>
      cases hask
      refine retimes_pure ?_
      rw [Summary.byKeywords_retime]
      rfl
  | model =>
      cases hask
      refine retimes_now.bind fun now => ?_
      rw [Summary.request_retime]
      exact (retimes_put (.consult _)).bind fun answer => retimes_pure rfl
  | custom =>
      cases hask
      exact retimes_put (.summarize turns)

theorem retimes_summary? (summarizer : Summarizer) (turns : List Turn) :
    Retimes view id (Compaction.summary? summarizer.ask? turns)
      (Compaction.summary? summarizer.ask? (turns.map (Turn.retime view))) := by
  cases hask : summarizer.ask? with
  | none => exact retimes_pure rfl
  | some summarize =>
      refine (retimes_summarize hask turns).bind fun answer => ?_
      cases answer with
      | ok text => exact retimes_pure rfl
      | error e => exact (retimes_put (.warn _)).bind fun _ => retimes_pure rfl

theorem retimes_compact (settings : CompactionSettings) (summarizer : Summarizer)
    (turns : List Turn) :
    Retimes view (CompactionResult.retime view)
      (Compaction.compact settings summarizer.ask? Dialogue.now turns)
      (Compaction.compact settings summarizer.ask? Dialogue.now
        (turns.map (Turn.retime view))) := by
  unfold Compaction.compact
  rw [Compaction.split?_retime]
  cases Compaction.split? settings turns with
  | none => exact retimes_pure (Compaction.unchanged_retime view turns)
  | some parts =>
      refine (retimes_summary? summarizer parts.1).bind fun summary => ?_
      refine retimes_now.bind fun now => retimes_pure ?_
      exact Compaction.fold_retime view settings parts.1 parts.2 summary now

/-- The compactor does the same with a history as a view of time shows it. -/
structure Compactor.Respects (view : Instant → Instant) (k : Compactor) : Prop where
  isDue : ∀ turns, k.isDue (turns.map (Turn.retime view)) = k.isDue turns
  compact : ∀ turns, Retimes view (CompactionResult.retime view) (k.compact turns)
    (k.compact (turns.map (Turn.retime view)))

/-- If the setup has a compactor, that respects the view. -/
def Setup.Respects (view : Instant → Instant) (setup : Setup) : Prop :=
  ∀ k, setup.compaction = some k → k.Respects view

theorem Setup.Contextual.respects {setup : Setup} (h : setup.Contextual) : setup.Respects view := by
  intro k hk
  obtain ⟨compaction, hcompaction⟩ := h
  obtain ⟨settings, summarizer, -, rfl⟩ := hcompaction.eq_context hk
  exact ⟨Compaction.isDue_retime view settings, retimes_compact settings summarizer⟩

theorem retimes_compactIfDue {setup : Setup} (hsetup : setup.Respects view) (session : Session) :
    Retimes view (Session.retime view) (compactIfDue setup session)
      (compactIfDue setup (session.retime view)) := by
  have hturns : (session.retime view).turns = session.turns.map (Turn.retime view) := rfl
  unfold compactIfDue
  cases hcompaction : setup.compaction with
  | none => exact retimes_pure rfl
  | some k =>
      have hk := hsetup k hcompaction
      dsimp only
      rw [hturns, hk.isDue]
      split
      · refine (hk.compact session.turns).bind fun result => ?_
        have hchanged : (result.retime view).changed = result.changed := rfl
        rw [hchanged]
        split
        · exact (retimes_report (compactionEvent result)).bind fun _ => retimes_pure rfl
        · exact retimes_pure rfl
      · exact retimes_pure rfl

/-! ## Whole runs -/

theorem retimes_converse {setup : Setup} (hsetup : setup.Respects view) (session : Session)
    (prompt : String) :
    Retimes view (Conclusion.retime view) (converse setup session prompt)
      (converse setup (session.retime view) prompt) := by
  have hgoesOn : ∀ s : Session, Retimes view (Conclusion.retime view)
      (compactIfDue setup s >>= fun s => loop setup setup.settings.maxSteps.toNat (.start s))
      (compactIfDue setup (s.retime view) >>= fun s =>
        loop setup setup.settings.maxSteps.toNat (.start s)) :=
    fun s => (retimes_compactIfDue hsetup s).bind fun s' =>
      retimes_loop setup setup.settings.maxSteps.toNat (.start s')
  exact retimes_addTurn { session with counts := session.counts.startRun } (.user prompt)
    (fun _ => rfl) hgoesOn

/-- A run over a session as a view of time shows it is the run over the session, as the view shows
it. -/
theorem retimes_run {setup : Setup} (hsetup : setup.Respects view) (session : Session)
    (prompt : String) :
    Retimes view (Conclusion.retime view) (run setup session prompt)
      (run setup (session.retime view) prompt) := by
  refine (retimes_report .runStart).bind fun _ => ?_
  refine (retimes_converse hsetup session prompt).bind fun conclusion => ?_
  exact (retimes_report (closingEvent conclusion.2)).bind fun _ => retimes_pure rfl

theorem retimes_clear (session : Session) :
    Retimes view (fun result => (result.1.retime view, result.2)) (clear session)
      (clear (session.retime view)) := by
  refine (retimes_put (.save session.clear.snapshot)).bind fun answer => ?_
  cases answer with
  | ok done => exact retimes_pure rfl
  | error e => exact retimes_pure rfl

end Engine

end AgentSessions
