import AgentSessions.Engine.Run
import AgentSessions.Proofs.Dialogue.Marks

/-!
# What an engine asks by the way

An engine asks for the time, puts calls to the checks and results to the reviews, and has old turns
summarized. Marks of exchanges mostly leave all this out (`Overlooks`), and then permission and
reviews are calm.

Where the marks leave out the saves as well (`OverlooksSaves`), the ends of a run are calm, and each
says with which turn and which result the run ends.
-/

set_option autoImplicit false

namespace AgentSessions

open Json (Object)

namespace Engine

open Dialogue (does_pure does_pure_after calm_pure calm_put Calm Does)

/-- A question that does not bear on the calls and the saves of a run. -/
def Ask.isAside : Ask → Bool
  | .now | .consult _ | .summarize _ | .check _ _ | .confirm _ | .review _ _ | .warn _ => true
  | _ => false

/-- A question about a call or its result, for others to judge. -/
def Ask.isOpinion : Ask → Bool
  | .check _ _ | .confirm _ | .review _ _ | .warn _ => true
  | _ => false

/-- The marks leave out what is asked by the way. -/
def Overlooks {μ : Type} (mark? : Exchange → Option μ) : Prop :=
  ∀ (question : Ask) (answer : question.Answer), question.isAside = true →
    mark? ⟨question, answer⟩ = none

/-- The marks leave out what others say of calls and results. -/
def OverlooksOpinions {μ : Type} (mark? : Exchange → Option μ) : Prop :=
  ∀ (question : Ask) (answer : question.Answer), question.isOpinion = true →
    mark? ⟨question, answer⟩ = none

variable {μ : Type} {mark? : Exchange → Option μ}

theorem calm_aside (h : Overlooks mark?) (question : Ask) (haside : question.isAside = true) :
    (Dialogue.put question).Calm mark? fun _ => True :=
  calm_put fun answer => h question answer haside

theorem calm_now (h : Overlooks mark?) : Dialogue.now.Calm mark? fun _ => True :=
  calm_aside h .now rfl

theorem Overlooks.opinions (h : Overlooks mark?) : OverlooksOpinions mark? := by
  intro question answer hopinion
  refine h question answer ?_
  cases question with
  | check | confirm | review | warn => rfl
  | now | isCancelled | chat | consult | summarize | execute | save | report => cases hopinion

theorem calm_opinion (h : OverlooksOpinions mark?) (question : Ask)
    (hopinion : question.isOpinion = true) : (Dialogue.put question).Calm mark? fun _ => True :=
  calm_put fun answer => h question answer hopinion

/-! ## Checks and reviews -/

theorem calm_consult (session : SessionId) (call : ToolCall)
    {checks : List (PreRequest → Dialogue PreOutcome)}
    (hchecks : ∀ check ∈ checks, ∀ request, (check request).Calm mark? fun _ => True)
    (arguments : Object) (asked : Option (Option String)) :
    (Permission.consult session call checks arguments asked).Calm mark? fun _ => True := by
  induction checks generalizing arguments asked with
  | nil => exact calm_pure trivial
  | cons check rest ih =>
      have hrest := ih fun c hc => hchecks c (List.mem_cons_of_mem _ hc)
      refine (hchecks check List.mem_cons_self _).bind fun outcome _ => ?_
      cases outcome.decision with
      | allow => exact hrest _ _
      | deny => exact calm_pure trivial
      | ask => exact hrest _ _

theorem calm_confirmed (h : OverlooksOpinions mark?)
    {confirm : ConfirmationRequest → Dialogue (Except HookError Bool)}
    (hconfirm : ∀ request, (confirm request).Calm mark? fun _ => True) (session : SessionId)
    (call : ToolCall) (arguments : Object) (reason : Option String) :
    (Permission.confirmed confirm session call arguments reason).Calm mark? fun _ => True := by
  refine (hconfirm _).bind fun answer _ => ?_
  match answer with
  | .ok true => exact calm_pure trivial
  | .ok false => exact calm_pure trivial
  | .error e => exact (calm_opinion h (.warn _) rfl).bind fun _ _ => calm_pure trivial

theorem calm_judge (h : OverlooksOpinions mark?) (setup : Setup) (session : SessionId)
    (call : ToolCall) :
    (Permission.judge setup.preChecks setup.confirmer session call).Calm mark? fun _ => True := by
  have hchecks : ∀ check ∈ setup.preChecks, ∀ request,
      (check request).Calm mark? fun _ => True := by
    intro check hcheck request
    obtain ⟨i, -, rfl⟩ := List.mem_map.mp hcheck
    exact calm_opinion h _ rfl
  -- the one who confirms is asked only if a check wants it, and is there to be asked
  refine (calm_consult session call hchecks _ _).bind fun checked _ => ?_
  cases checked with
  | denied reason arguments => exact calm_pure trivial
  | passed arguments asked =>
      unfold Setup.confirmer
      cases asked with
      | none => exact calm_pure trivial
      | some reason =>
          cases setup.confirms with
          | false => exact calm_pure trivial
          | true =>
              exact calm_confirmed h (fun request => calm_opinion h (.confirm request) rfl) _ _ _ _

/-- A result that nobody reviews stays as it is. -/
theorem calm_review (h : OverlooksOpinions mark?) (setup : Setup) (request : PostRequest) :
    (review setup.postChecks request).Calm mark? fun result =>
      setup.reviews = 0 → result = request.result := by
  have hchecks : ∀ check ∈ setup.postChecks, ∀ r, (check r).Calm mark? fun _ => True := by
    intro check hcheck r
    obtain ⟨i, -, rfl⟩ := List.mem_map.mp hcheck
    exact calm_opinion h _ rfl
  have hnone : setup.reviews = 0 → setup.postChecks = [] := by
    intro hreviews
    rw [Setup.postChecks, hreviews, List.range_zero, List.map_nil]
  refine Calm.mono (P := fun result => setup.postChecks = [] → result = request.result) ?_
    fun result hresult hreviews => hresult (hnone hreviews)
  unfold review
  generalize request.result = result
  generalize setup.postChecks = checks at hchecks
  induction checks generalizing result with
  | nil => exact calm_pure fun _ => rfl
  | cons check rest ih =>
      rw [List.foldlM_cons]
      refine ((hchecks check List.mem_cons_self _).bind (Q := fun _ => True) fun outcome _ =>
        calm_pure trivial).bind fun next _ => ?_
      refine (ih next fun c hc => hchecks c (List.mem_cons_of_mem _ hc)).mono fun _ _ hempty => ?_
      cases hempty

/-! ## The question to the model -/

theorem calm_requestTurns (h : Overlooks mark?) (setup : Setup) (session : Session) :
    (requestTurns setup session).Calm mark? fun _ => True := by
  unfold requestTurns
  cases setup.systemPrompt with
  | none => exact calm_pure trivial
  | some prompt => exact (calm_now h).bind fun now _ => calm_pure trivial

/-! ## The ends of a run -/

/-- The marks leave out the saves of a session. -/
def OverlooksSaves {μ : Type} (mark? : Exchange → Option μ) : Prop :=
  ∀ (snapshot : Snapshot) (answer : Except StoreError Unit),
    mark? ⟨.save snapshot, answer⟩ = none

theorem calm_saveThen (hsaves : OverlooksSaves mark?) {α : Type} {P : α → Prop} (session : Session)
    {failed : RunError → α} {saved : α} (hsaved : P saved) (hfailed : ∀ e, P (failed (.save e))) :
    (saveThen session failed saved).Calm mark? P := by
  refine Calm.bind (P := fun _ => True) (calm_put fun answer => hsaves _ answer) fun answer _ => ?_
  cases answer with
  | ok _ => exact calm_pure hsaved
  | error e => exact calm_pure (hfailed e)

theorem calm_saveIfPossible (h : Overlooks mark?) (hsaves : OverlooksSaves mark?)
    (session : Session) : (saveIfPossible session).Calm mark? fun _ => True := by
  refine Calm.bind (P := fun _ => True) (calm_put fun answer => hsaves _ answer) fun answer _ => ?_
  cases answer with
  | ok _ => exact calm_pure trivial
  | error e => exact calm_aside h (.warn _) rfl

theorem calm_abort (h : Overlooks mark?) (hsaves : OverlooksSaves mark?) (session : Session) :
    (abort session).Calm mark? fun c => ∃ now,
      c = (session.addTurn (.system "Run cancelled." now), .error .cancelled) := by
  refine (calm_now h).bind fun now _ => ?_
  exact (calm_saveIfPossible h hsaves _).bind fun _ _ => calm_pure ⟨now, rfl⟩

theorem calm_modelFailed (h : Overlooks mark?) (hsaves : OverlooksSaves mark?) (session : Session)
    (e : ModelError) :
    (modelFailed session e).Calm mark? fun c => ∃ now,
      c = (session.addTurn (.system ("Run failed: " ++ e.message) now), .error (.model e)) := by
  refine (calm_now h).bind fun now _ => ?_
  exact (calm_saveIfPossible h hsaves _).bind fun _ _ => calm_pure ⟨now, rfl⟩

/-- A result that the run comes to unless its session cannot be saved. -/
def UnlessUnsaved (expected result : Except RunError RunSummary) : Prop :=
  result = expected ∨ ∃ e, result = .error (.save e)

theorem calm_exhausted (h : Overlooks mark?) (hsaves : OverlooksSaves mark?) (limit : UInt32)
    (st : RunState) :
    (exhausted limit st).Calm mark? fun c => ∃ now,
      c.1 = st.session.addTurn (.assistant (exhaustedText limit) now) ∧
        UnlessUnsaved (.error (.maxSteps limit st.lastText)) c.2 :=
  (calm_now h).bind fun now _ =>
    calm_saveThen hsaves _ ⟨now, rfl, .inl rfl⟩ fun e => ⟨now, rfl, .inr ⟨e, rfl⟩⟩

theorem calm_answered (h : Overlooks mark?) (hsaves : OverlooksSaves mark?) (text : String)
    (st : RunState) :
    (answered text st).Calm mark? fun c => ∃ now,
      c.1 = st.session.addTurn (.assistant text now) ∧
        UnlessUnsaved (.ok (summaryOf text st)) c.2 :=
  (calm_now h).bind fun now _ =>
    calm_saveThen hsaves _ ⟨now, rfl, .inl rfl⟩ fun e => ⟨now, rfl, .inr ⟨e, rfl⟩⟩

/-- A step is closed with the word that a quota is used up, if it is, and the run goes on unless its
session cannot be saved. -/
inductive ClosesAs (setup : Setup) (st : RunState) : StepResult → Prop where
  | unsaved {st' : RunState} (e : StoreError) : ClosesAs setup st (.next st') →
      ClosesAs setup st (.ended (st'.session, .error (.save e)))
  | free : st.forced = false → ClosesAs setup st (.next st)
  | forced (now : Instant) : st.forced = true →
      ClosesAs setup st (.next (st.addTurn (.system setup.settings.forceFinalAnswerPrompt now)))

theorem calm_closeStep (h : Overlooks mark?) (hsaves : OverlooksSaves mark?) (setup : Setup)
    (st : RunState) : (closeStep setup st).Calm mark? (ClosesAs setup st) := by
  have hsave : ∀ st' : RunState, ClosesAs setup st (.next st') →
      (saveThen st'.session (fun e => StepResult.ended (st'.session, .error e)) (.next st')).Calm
        mark? (ClosesAs setup st) :=
    fun st' hst' => calm_saveThen hsaves _ hst' fun e => .unsaved e hst'
  unfold closeStep
  cases hforced : st.forced with
  | true => exact (calm_now h).bind fun now _ => hsave _ (.forced now hforced)
  | false => exact hsave st (.free hforced)

/-! ## The whole run -/

/-- A run looks at its token before each step, and goes on unless that is tripped. -/
theorem does_unlessCancelled {look : Bool → List μ}
    (hlook : Dialogue.isCancelled.Does mark? fun ms tripped => ms = look tripped)
    {session : Session} {next : Dialogue Conclusion} {P : List μ → Conclusion → Prop}
    (habort : (abort session).Does mark? fun ms c => P (look true ++ ms) c)
    (hnext : next.Does mark? fun ms c => P (look false ++ ms) c) :
    (do if ← Dialogue.isCancelled then abort session else next).Does mark? P := by
  refine hlook.bind fun ms tripped hms => ?_
  rw [hms]
  cases tripped with
  | true => exact habort
  | false => exact hnext

/-- The event says how a run goes as a whole, and not what happens in its steps. -/
def framesRun : EventBody → Bool
  | .runStart | .compactionComplete _ _ _ | .runEnd _ _ | .runFailed _ _ => true
  | _ => false

theorem framesRun_closingEvent (result : Except RunError RunSummary) :
    framesRun (closingEvent result) = true := by
  cases result <;> rfl

/-- The marks leave out the events that frame a run. -/
def OverlooksFrame {μ : Type} (mark? : Exchange → Option μ) : Prop :=
  ∀ body, framesRun body = true → mark? ⟨.report body, ()⟩ = none

/-- Where the marks leave out what frames a run, they are those of its steps. The steps begin with
the prompt in the session and its history compacted if that is due, which `Q` speaks of. -/
theorem does_run_of_loop (h : Overlooks mark?) (hframe : OverlooksFrame mark?) {setup : Setup}
    {session : Session} {prompt : String} {Q : Session → Session → Prop}
    (hcompact : ∀ s, (compactIfDue setup s).Calm mark? (Q s)) {P : List μ → Conclusion → Prop}
    (hloop : ∀ now s,
      Q (Session.addTurn { session with counts := session.counts.startRun } (.user prompt now)) s →
      (loop setup setup.settings.maxSteps.toNat (.start s)).Does mark? P) :
    (run setup session prompt).Does mark? P := by
  have hreport : ∀ body, framesRun body = true →
      (Dialogue.report body).Calm mark? fun _ => True :=
    fun body hbody => calm_put fun _ => hframe body hbody
  have hconverse : (converse setup session prompt).Does mark? P := by
    refine (calm_now h).then fun now _ => ?_
    exact (hcompact _).then fun s hs => hloop now s hs
  refine (hreport .runStart rfl).then fun _ _ => hconverse.bind fun ms c hc => ?_
  exact (hreport _ (framesRun_closingEvent c.2)).then fun _ _ => does_pure_after hc

end Engine

end AgentSessions
