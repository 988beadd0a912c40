import AgentSessions.Engine.Call

/-!
# Runs of an engine

A run takes a prompt to an answer. It compacts the history if it has grown too long, then asks the
model and settles the calls of its answer, step after step, until the model answers without calls.
It also ends when the steps are used up, when it is cancelled, when the model fails, and when the
session cannot be saved.

The session is saved at the end of every step and of the run. Where the run fails anyway, a save
that fails is only warned of.
-/

set_option autoImplicit false

namespace AgentSessions.Engine

/-- How a run ended, and the session as it left it. -/
abbrev Conclusion := Session × Except RunError RunSummary

/-! ## The ends of a run -/

/-- Saves the session; a failure is warned of and passed over. -/
def saveIfPossible (session : Session) : Dialogue Unit := do
  match ← Dialogue.put (.save session.snapshot) with
  | .ok () => pure ()
  | .error e => MonadWarn.warn (.persistFailed (RunError.save e).message)

/-- Saves the session and goes on, or ends the run when that fails. -/
def saveThen {α : Type} (session : Session) (failed : RunError → α) (saved : α) : Dialogue α := do
  match ← Dialogue.put (.save session.snapshot) with
  | .ok () => pure saved
  | .error e => pure (failed (.save e))

def abort (session : Session) : Dialogue Conclusion := do
  let now ← Dialogue.now
  let session := session.addTurn (.system "Run cancelled." now)
  saveIfPossible session
  pure (session, .error .cancelled)

def exhaustedText (limit : UInt32) : String :=
  "Stopped: reached the limit of " ++ toString limit.toNat ++ " steps before finishing."

def exhausted (limit : UInt32) (st : RunState) : Dialogue Conclusion := do
  let now ← Dialogue.now
  let session := st.session.addTurn (.assistant (exhaustedText limit) now)
  saveThen session (fun e => (session, .error e)) (session, .error (.maxSteps limit st.lastText))

def modelFailed (session : Session) (e : ModelError) : Dialogue Conclusion := do
  let now ← Dialogue.now
  let session := session.addTurn (.system ("Run failed: " ++ e.message) now)
  saveIfPossible session
  pure (session, .error (.model e))

/-- The summary of a run that is answered. -/
def summaryOf (text : String) (st : RunState) : RunSummary where
  text := text
  steps := st.step
  toolCalls := UInt32.ofNat st.executed
  stopReason := if st.forced then .quotaExhausted else .finalAnswer
  forcedFinalAnswer := st.forced

def answered (text : String) (st : RunState) : Dialogue Conclusion := do
  let now ← Dialogue.now
  let session := st.session.addTurn (.assistant text now)
  saveThen session (fun e => (session, .error e)) (session, .ok (summaryOf text st))

/-! ## Steps -/

/-- What a step comes to: the end of the run, or the state in which the next step begins. -/
inductive StepResult where
  | ended (conclusion : Conclusion)
  | next (st : RunState)

def requestTurns (setup : Setup) (session : Session) : Dialogue (List Turn) :=
  match setup.systemPrompt with
  | none => pure session.turns
  | some prompt => do
      let now ← Dialogue.now
      pure (.system prompt now :: session.turns)

/-- The tools that the model may call: none once a quota was used up. -/
def offered (setup : Setup) (st : RunState) : List ToolSpec :=
  if st.forced then [] else setup.tools

def RunState.addCalls (st : RunState) (response : ModelResponse) (now : Instant) : RunState :=
  { st.addTurn (.calling response.content response.toolCalls now) with
    lastText := if response.content.isEmpty then st.lastText else some response.content }

/-- The end of a step whose calls are all settled. -/
def closeStep (setup : Setup) (st : RunState) : Dialogue StepResult := do
  let st ←
    if st.forced then do
      let now ← Dialogue.now
      pure (st.addTurn (.system setup.settings.forceFinalAnswerPrompt now))
    else pure st
  saveThen st.session (fun e => .ended (st.session, .error e)) (.next st)

def act (setup : Setup) (response : ModelResponse) (st : RunState) : Dialogue StepResult := do
  let now ← Dialogue.now
  match ← resolve setup response.toolCalls (st.addCalls response now) with
  | (true, st) => .ended <$> abort st.session
  | (false, st) => closeStep setup st

/-- One step: the model is asked, and its answer is taken for the last word or its calls are
settled. -/
def takeStep (setup : Setup) (st : RunState) : Dialogue StepResult := do
  let st := { st with steps := st.steps + 1 }
  Dialogue.report (.stepStart st.step)
  let turns ← requestTurns setup st.session
  match ← Dialogue.put (.chat ⟨turns, offered setup st⟩) with
  | none => .ended <$> abort st.session
  | some (.error e) => .ended <$> modelFailed st.session e
  | some (.ok response) =>
      if !response.hasToolCalls || st.forced then .ended <$> answered response.content st
      else act setup response st

/-- Takes steps until the run ends; `left` is the number of steps that are left. -/
def loop (setup : Setup) : (left : Nat) → RunState → Dialogue Conclusion
  | 0, st => do
      if ← Dialogue.isCancelled then abort st.session
      else exhausted setup.settings.maxSteps st
  | left + 1, st => do
      if ← Dialogue.isCancelled then abort st.session
      else
        match ← takeStep setup st with
        | .ended conclusion => pure conclusion
        | .next st => loop setup left st

/-! ## The whole run -/

def compactionEvent (r : CompactionResult) : EventBody :=
  .compactionComplete (UInt64.ofNat r.tokensBefore) (UInt64.ofNat r.tokensAfter) r.truncated

/-- Has the history of a session compacted if it is due. -/
def compactIfDue (setup : Setup) (session : Session) : Dialogue Session :=
  match setup.compaction with
  | none => pure session
  | some compactor =>
      if compactor.isDue session.turns then do
        let result ← compactor.compact session.turns
        if result.changed then Dialogue.report (compactionEvent result)
        pure { session with turns := result.turns }
      else pure session

/-- A run without the events that frame it. -/
def converse (setup : Setup) (session : Session) (prompt : String) : Dialogue Conclusion := do
  let now ← Dialogue.now
  let session := { session with counts := session.counts.startRun }
  let session ← compactIfDue setup (session.addTurn (.user prompt now))
  loop setup setup.settings.maxSteps.toNat (.start session)

def closingEvent : Except RunError RunSummary → EventBody
  | .ok summary => .runEnd summary.steps summary.stopReason.name
  | .error e => .runFailed e.message e.category

def run (setup : Setup) (session : Session) (prompt : String) : Dialogue Conclusion := do
  Dialogue.report .runStart
  let (session, result) ← converse setup session prompt
  Dialogue.report (closingEvent result)
  pure (session, result)

/-- Empties a session and saves it. -/
def clear (session : Session) : Dialogue (Session × Except RunError Unit) := do
  let session := session.clear
  match ← Dialogue.put (.save session.snapshot) with
  | .ok () => pure (session, .ok ())
  | .error e => pure (session, .error (.save e))

end AgentSessions.Engine
