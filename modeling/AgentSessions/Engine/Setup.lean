import AgentSessions.Compaction.Basic
import AgentSessions.Engine.Dialogue
import AgentSessions.Settings.Basic

/-!
# How an engine is set up

The settings of an engine and what it knows of its surroundings: which tools it may offer to the
model, how many checks and reviews there are, whether calls can be confirmed, and who compacts long
histories.

A compactor is whatever tells which histories are due and makes something of them. What it may ask
for that is part of the type (`Compactor.asks`): it has no say in the steps, calls and saves of a
run. The compactor by settings (`Compactor.context`) folds old turns into a summary.
-/

set_option autoImplicit false

namespace AgentSessions.Engine

/-- How the turns that are folded away are summarized. -/
inductive Summarizer where
  | none
  | keywords
  | model
  | custom
  deriving DecidableEq, Repr

namespace Summarizer

/-- The summary by keywords, as a question that nobody has to answer. -/
def keyworded (turns : List Turn) : Dialogue (Except SummarizerError String) :=
  pure (.ok (Summary.byKeywords turns))

def modelled (turns : List Turn) : Dialogue (Except SummarizerError String) := do
  let now ← Dialogue.now
  let answer ← Dialogue.put (.consult (Summary.request turns now))
  pure (Summary.ofAnswer answer)

/-- How turns are summarized; `none` when they are dropped. -/
def ask? : Summarizer → Option (List Turn → Dialogue (Except SummarizerError String))
  | none => .none
  | keywords => some keyworded
  | model => some modelled
  | custom => some fun turns => Dialogue.put (.summarize turns)

end Summarizer

/-! ## Compactors -/

/-- Questions for the time and for a summary, and the warning that there is none. -/
def Ask.servesCompaction : Ask → Bool
  | now | consult _ | summarize _ | warn _ => true
  | _ => false

/-- Which histories are due, and what is done with a history. -/
structure Compactor where
  isDue : List Turn → Bool
  compact : List Turn → Dialogue CompactionResult
  asks : ∀ turns, (compact turns).Only Ask.servesCompaction

theorem Summarizer.only_of_ask? {summarizer : Summarizer}
    {summarize : List Turn → Dialogue (Except SummarizerError String)}
    (hask : summarizer.ask? = some summarize) (turns : List Turn) :
    (summarize turns).Only Ask.servesCompaction := by
  cases summarizer with
  | none => cases hask
  | keywords =>
      cases hask
      exact trivial
  | model =>
      cases hask
      exact ⟨rfl, fun _ => ⟨rfl, fun _ => trivial⟩⟩
  | custom =>
      cases hask
      exact Dialogue.only_put rfl

theorem Summarizer.only_summary? (summarizer : Summarizer) (turns : List Turn) :
    (Compaction.summary? summarizer.ask? turns).Only Ask.servesCompaction := by
  cases hask : summarizer.ask? with
  | none => exact trivial
  | some summarize =>
      refine (summarizer.only_of_ask? hask turns).bind fun answer => ?_
      cases answer with
      | ok text => exact trivial
      | error e => exact ⟨rfl, fun _ => trivial⟩

theorem Summarizer.only_compact (summarizer : Summarizer) (settings : CompactionSettings)
    (turns : List Turn) :
    (Compaction.compact settings summarizer.ask? Dialogue.now turns).Only
      Ask.servesCompaction := by
  unfold Compaction.compact
  split
  · exact trivial
  · exact (summarizer.only_summary? _).bind fun summary => ⟨rfl, fun now => trivial⟩

/-- The compactor with these settings, by this summarizer. -/
def Compactor.context (settings : CompactionSettings) (summarizer : Summarizer) : Compactor where
  isDue := Compaction.isDue settings
  compact := Compaction.compact settings summarizer.ask? Dialogue.now
  asks := summarizer.only_compact settings

/-! ## Setups -/

/-- The setup of an engine. -/
structure Setup where
  settings : EngineSettings
  /-- Sent before the history with every question, but not part of it. -/
  systemPrompt : Option String
  /-- How deep the engine is nested; zero is the top. -/
  depth : UInt32
  tools : List ToolSpec
  /-- The number of checks that a call has to pass. -/
  checks : Nat
  /-- The number of reviews of a result. -/
  reviews : Nat
  confirms : Bool
  /-- Who compacts long histories, if somebody does. -/
  compaction : Option Compactor

namespace Setup

def preChecks (setup : Setup) : List (PreRequest → Dialogue PreOutcome) :=
  (List.range setup.checks).map fun i request => Dialogue.put (.check i request)

def postChecks (setup : Setup) : List (PostRequest → Dialogue PostOutcome) :=
  (List.range setup.reviews).map fun i request => Dialogue.put (.review i request)

/-- The confirmation as a question, if somebody can be asked. -/
def confirmer (setup : Setup) :
    Option (ConfirmationRequest → Dialogue (Except HookError Bool)) :=
  if setup.confirms then some fun request => Dialogue.put (.confirm request) else none

end Setup

end AgentSessions.Engine
