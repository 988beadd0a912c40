import AgentSessions.Compaction.Summary
import AgentSessions.History.Tokens
import AgentSessions.Settings.Basic
import AgentSessions.Warning

/-!
# Compaction of long histories

A history that has grown over its budget is compacted: all but the most recent turns are replaced by
one summary. What is kept never opens with the result of a call, because the call would be folded
away. A lone summary is not summarized again. Where there is no summary, the turns are dropped and
the summary turn says how many there were.
-/

set_option autoImplicit false

namespace AgentSessions

structure CompactionResult where
  turns : List Turn
  tokensBefore : Nat
  tokensAfter : Nat
  /-- How many turns were folded; zero when nothing changed. -/
  compactedTurns : Nat
  /-- Whether the turns were dropped instead of summarized. -/
  truncated : Bool
  deriving DecidableEq

def CompactionResult.changed (r : CompactionResult) : Bool :=
  decide (0 < r.compactedTurns)

namespace Compaction

def heading : String := "[Context from earlier in this conversation]"

/-- The nearest place at or before `split` where the history does not go on with the result of a
call. -/
def beforeResults (turns : List Turn) : (split : Nat) → Nat
  | 0 => 0
  | split + 1 =>
      match turns[split + 1]? with
      | some turn => if turn.isToolResult then beforeResults turns split else split + 1
      | none => split + 1

def splitPoint (settings : CompactionSettings) (turns : List Turn) : Nat :=
  beforeResults turns (turns.length - settings.preserveRecentTurns.toNat)

/-- Whether turns are worth folding: there are some, and not a lone summary. -/
def isFoldable : List Turn → Bool
  | [] => false
  | [turn] => !turn.summary
  | _ => true

/-- The turns to fold and those to keep, if there is something to fold. -/
def split? (settings : CompactionSettings) (turns : List Turn) :
    Option (List Turn × List Turn) :=
  let at_ := splitPoint settings turns
  if isFoldable (turns.take at_) then some (turns.take at_, turns.drop at_) else none

/-- Whether a history is over its budget and has something to fold. -/
def isDue (settings : CompactionSettings) (turns : List Turn) : Bool :=
  settings.enabled && decide (settings.triggerTokens.toNat < Tokens.ofTurns turns)
    && (split? settings turns).isSome

def droppedText (count : Nat) : String :=
  toString count ++ " earlier turns were removed to fit the context window."

def summaryTurn (settings : CompactionSettings) (body : String) (now : Instant) : Turn :=
  .summarizing (Text.truncate (heading ++ "\n\n" ++ body) settings.maxSummaryChars.toNat) now

def unchanged (turns : List Turn) : CompactionResult :=
  let tokens := Tokens.ofTurns turns
  ⟨turns, tokens, tokens, 0, false⟩

/-- The result of folding turns into a summary, or into none. -/
def fold (settings : CompactionSettings) (folded recent : List Turn) (summary : Option String)
    (now : Instant) : CompactionResult :=
  let turns := summaryTurn settings (summary.getD (droppedText folded.length)) now :: recent
  { turns
    tokensBefore := Tokens.ofTurns (folded ++ recent)
    tokensAfter := Tokens.ofTurns turns
    compactedTurns := folded.length
    truncated := summary.isNone }

variable {m : Type → Type} [Monad m] [MonadWarn m]

/-- The summary of turns, if there is one; a summarizer that fails is warned of. -/
def summary? (summarize : Option (List Turn → m (Except SummarizerError String)))
    (turns : List Turn) : m (Option String) :=
  match summarize with
  | none => pure none
  | some summarize => do
      match ← summarize turns with
      | .ok text => pure (some text)
      | .error e => do
          MonadWarn.warn (.summarizationFailed e.message)
          pure none

/-- Compacts a history, whether or not it is over its budget. -/
def compact (settings : CompactionSettings)
    (summarize : Option (List Turn → m (Except SummarizerError String))) (clock : m Instant)
    (turns : List Turn) : m CompactionResult :=
  match split? settings turns with
  | none => pure (unchanged turns)
  | some (folded, recent) => do
      let summary ← summary? summarize folded
      let now ← clock
      pure (fold settings folded recent summary now)

end Compaction

end AgentSessions
