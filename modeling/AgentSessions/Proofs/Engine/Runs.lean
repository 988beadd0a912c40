import AgentSessions.Proofs.Engine.Compactors
import AgentSessions.Proofs.Engine.Saves

/-!
# How a run goes

A run takes steps from session to session and saves each of them, until it ends in one of five ways,
which `Engine.Goes` lists: it is finished, or stopped, and then the last session was saved or not,
or a session on the way could not be saved. The sessions only ever grow, by whole blocks, except
that the history may be compacted before the first step.
-/

set_option autoImplicit false

namespace AgentSessions.Engine

open Dialogue (does_pure does_pure_after calm_pure calm_put)

/-! ## What a run comes to -/

/-- The run is answered, or its steps are used up. -/
def Finishes (result : Except RunError RunSummary) : Prop :=
  (∃ summary, result = .ok summary) ∨ ∃ limit text, result = .error (.maxSteps limit text)

/-- The run is cancelled, or its model fails. -/
def Stops (result : Except RunError RunSummary) : Prop :=
  result = .error .cancelled ∨ ∃ e, result = .error (.model e)

/-- How a run goes on from a session: the marks that it leaves, and its conclusion. -/
inductive Goes : Session → List StoreMark → Conclusion → Prop where
  /-- A step ends, and its session is saved. -/
  | step {s s' : Session} {ms : List StoreMark} {c : Conclusion} :
      s.Extends s' → Goes s' ms c → Goes s (.saved s'.snapshot :: ms) c
  /-- The session of a step, or the last one, cannot be saved. -/
  | unsaved {s s' : Session} (e : StoreError) :
      s.Extends s' → Goes s [.failed s'.snapshot e] (s', .error (.save e))
  | finished {s s' : Session} {result : Except RunError RunSummary} :
      s.Extends s' → Finishes result → Goes s [.saved s'.snapshot] (s', result)
  | stopped {s s' : Session} {result : Except RunError RunSummary} :
      s.Extends s' → Stops result → Goes s [.stopped, .saved s'.snapshot] (s', result)
  /-- A run that is stopped passes over a save that fails. -/
  | stoppedUnsaved {s s' : Session} {result : Except RunError RunSummary} (e : StoreError) :
      s.Extends s' → Stops result → Goes s [.stopped, .failed s'.snapshot e] (s', result)

theorem Goes.of_extends {s s' : Session} {ms : List StoreMark} {c : Conclusion}
    (hextends : s.Extends s') (h : Goes s' ms c) : Goes s ms c := by
  cases h with
  | step h hgoes => exact .step (hextends.trans h) hgoes
  | unsaved e h => exact .unsaved e (hextends.trans h)
  | finished h hresult => exact .finished (hextends.trans h) hresult
  | stopped h hresult => exact .stopped (hextends.trans h) hresult
  | stoppedUnsaved e h hresult => exact .stoppedUnsaved e (hextends.trans h) hresult

/-! ## Ends -/

theorem leaves_saveThen {α : Type} (session : Session) (failed : RunError → α) (saved : α) :
    Leaves
      (fun ms a => (ms = [.saved session.snapshot] ∧ a = saved) ∨
        ∃ e, ms = [.failed session.snapshot e] ∧ a = failed (.save e))
      (saveThen session failed saved) := by
  refine (leaves_save session.snapshot).bind fun ms answer hms => ?_
  rw [hms]
  cases answer with
  | ok done => exact does_pure (.inl ⟨rfl, rfl⟩)
  | error e => exact does_pure (.inr ⟨e, rfl, rfl⟩)

/-- The end of a run that was stopped. -/
theorem leaves_stop {s s' : Session} (hextends : s.Extends s')
    {result : Except RunError RunSummary} (hresult : Stops result) :
    Leaves (fun ms c => Goes s (.stopped :: ms) c)
      (do
        saveIfPossible s'
        pure (s', result)) := by
  refine Dialogue.Does.bind ((leaves_save s'.snapshot).bind fun ms answer hms => ?_)
    fun ms (_ : Unit) h => h
  rw [hms]
  cases answer with
  | ok done => exact does_pure (does_pure (.stopped hextends hresult))
  | error e =>
      have hwarn := calm_aside overlooks_storeMark?
        (.warn (.persistFailed (RunError.save e).message)) rfl
      exact hwarn.then fun _ _ => does_pure (.stoppedUnsaved e hextends hresult)

theorem leaves_abort (session : Session) :
    Leaves (fun ms c => Goes session (.stopped :: ms) c) (abort session) := by
  refine quiet_now.then fun now _ => ?_
  exact leaves_stop (session.extends_addTurn Role.noConfusion rfl rfl) (.inl rfl)

theorem leaves_modelFailed (session : Session) (e : ModelError) :
    Leaves (fun ms c => Goes session (.stopped :: ms) c) (modelFailed session e) := by
  refine quiet_now.then fun now _ => ?_
  exact leaves_stop (session.extends_addTurn Role.noConfusion rfl rfl) (.inr ⟨e, rfl⟩)

/-- The end of a run that has to be saved. -/
theorem leaves_finish {s s' : Session} (hextends : s.Extends s')
    {result : Except RunError RunSummary} (hresult : Finishes result) :
    Leaves (Goes s) (saveThen s' (fun e => (s', .error e)) (s', result)) := by
  refine (leaves_saveThen s' _ _).mono fun ms c h => ?_
  rcases h with ⟨rfl, rfl⟩ | ⟨e, rfl, rfl⟩
  · exact .finished hextends hresult
  · exact .unsaved e hextends

theorem leaves_exhausted (limit : UInt32) (st : RunState) :
    Leaves (Goes st.session) (exhausted limit st) := by
  refine quiet_now.then fun now _ => ?_
  exact leaves_finish (st.session.extends_addTurn Role.noConfusion rfl rfl) (.inr ⟨_, _, rfl⟩)

theorem leaves_answered (text : String) (st : RunState) :
    Leaves (Goes st.session) (answered text st) := by
  refine quiet_now.then fun now _ => ?_
  exact leaves_finish (st.session.extends_addTurn Role.noConfusion rfl rfl) (.inl ⟨_, rfl⟩)

/-! ## Steps -/

/-- What a step that begins with this session comes to. -/
def Steps (s : Session) (ms : List StoreMark) : StepResult → Prop
  | .ended c => Goes s ms c
  | .next st => s.Extends st.session ∧ ms = [.saved st.session.snapshot]

theorem leaves_closeStep (setup : Setup) {s : Session} {st : RunState}
    (hextends : s.Extends st.session) : Leaves (Steps s) (closeStep setup st) := by
  have hsave : ∀ st' : RunState, s.Extends st'.session → Leaves (Steps s)
      (saveThen st'.session (fun e => .ended (st'.session, .error e)) (.next st')) := by
    intro st' hst'
    refine (leaves_saveThen st'.session _ _).mono fun ms c h => ?_
    rcases h with ⟨rfl, rfl⟩ | ⟨e, rfl, rfl⟩
    · exact ⟨hst', rfl⟩
    · exact .unsaved e hst'
  unfold closeStep
  cases st.forced with
  -- a quota was used up, so the next step is to answer without tools, and is told so
  | true =>
      refine quiet_now.then fun now _ => ?_
      exact hsave _ (hextends.trans (st.session.extends_addTurn Role.noConfusion rfl rfl))
  | false => exact hsave st hextends

theorem leaves_act (setup : Setup) (response : ModelResponse) (st : RunState) :
    Leaves (Steps st.session) (act setup response st) := by
  refine quiet_now.then fun now _ => ?_
  refine (leaves_resolve setup response.toolCalls (st.addCalls response now)).bind
    fun ms result hresult => ?_
  obtain ⟨stopped, st'⟩ := result
  obtain ⟨rfl, hsettled⟩ := hresult
  have hextends : st.session.Extends st'.session :=
    Settled.extends hsettled Role.noConfusion rfl rfl
  cases stopped with
  | true =>
      refine Dialogue.Does.map (leaves_abort st'.session) fun ms c h => ?_
      exact h.of_extends hextends
  | false => exact leaves_closeStep setup hextends

theorem leaves_takeStep (setup : Setup) (st : RunState) :
    Leaves (Steps st.session) (takeStep setup st) := by
  refine (quiet_report _).then fun _ _ => ?_
  refine (calm_requestTurns overlooks_storeMark? setup _).then fun turns _ => ?_
  refine (leaves_chat _).bind fun ms answer hms => ?_
  rw [hms]
  match answer with
  | none => exact Dialogue.Does.map (leaves_abort st.session) fun _ _ h => h
  | some (.error e) => exact Dialogue.Does.map (leaves_modelFailed st.session e) fun _ _ h => h
  | some (.ok response) =>
      show Leaves (Steps st.session) (if !response.hasToolCalls || st.forced then _ else _)
      split
      · exact Dialogue.Does.map (leaves_answered _ _) fun _ _ h => h
      · exact leaves_act setup response { st with steps := st.steps + 1 }

theorem leaves_loop (setup : Setup) (left : Nat) (st : RunState) :
    Leaves (Goes st.session) (loop setup left st) := by
  induction left generalizing st with
  | zero =>
      exact does_unlessCancelled leaves_isCancelled (leaves_abort st.session)
        (leaves_exhausted _ st)
  | succ left ih =>
      refine does_unlessCancelled leaves_isCancelled (leaves_abort st.session) ?_
      refine (leaves_takeStep setup st).bind fun ms' result hresult => ?_
      cases result with
      | ended conclusion =>
          exact does_pure_after hresult
      | next st' =>
          obtain ⟨hextends, rfl⟩ := hresult
          exact (ih st').mono fun ms'' c h => .step hextends h

/-! ## The whole run -/

/-- A run goes on from a session with the same audit trail. If the compactor is one by settings, the
history of that session is well-formed if it was so before. -/
theorem leaves_run (setup : Setup) (session : Session) (prompt : String) :
    Leaves
      (fun ms c => ∃ s, s.records = session.records ∧
        (setup.Contextual → WellFormed session.turns → WellFormed s.turns) ∧ Goes s ms c)
      (run setup session prompt) := by
  refine does_run_of_loop overlooks_storeMark? (fun _ _ => rfl)
    (calm_compactIfDue overlooks_storeMark? (fun _ => rfl) setup) fun now s hs => ?_
  obtain ⟨hsame, hcompacts⟩ := hs
  have hrecords : s.records = session.records := by rw [hsame]; rfl
  refine (leaves_loop setup _ (.start s)).mono fun ms c hgoes =>
    ⟨s, hrecords, fun hsetup h => ?_, hgoes⟩
  -- the prompt is added first, and the history is compacted with it
  have hprompt : session.Extends (session.addTurn (.user prompt now)) :=
    session.extends_addTurn Role.noConfusion rfl rfl
  exact (hcompacts.of_contextual hsetup).wellFormed (hprompt.wellFormed h)

end AgentSessions.Engine
