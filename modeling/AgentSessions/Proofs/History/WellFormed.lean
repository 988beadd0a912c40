import Mathlib.Data.List.Forall2
import AgentSessions.Session.Basic

/-!
# Well-formed histories

A history is well-formed when every answer that calls tools is followed at once by one result for
each of its calls, in their order, when there are no other results, and when no turn but the first
is a summary (`WellFormed`). Such a history is a row of blocks, each a turn that is no result and
the results of its calls (`Paired`), and may be cut at every place that is not followed by a result.

A session goes on from another one when it has the same history with whole blocks behind it
(`Session.Extends`).
-/

set_option autoImplicit false

namespace AgentSessions

/-! ## Blocks -/

/-- The calls that the turn asks for. -/
def Turn.asked (turn : Turn) : List ToolCall :=
  match turn.role with
  | .assistant => turn.toolCalls
  | .system | .user | .tool => []

/-- The turn is the result of the call. -/
def ToolCall.AnsweredBy (call : ToolCall) (turn : Turn) : Prop :=
  turn.role = .tool ∧ turn.toolCallId = some call.id

/-- Every turn that is no result is followed by the results of its calls, one for each and in their
order, and there are no other results. -/
inductive Paired : List Turn → Prop where
  | nil : Paired []
  | block {turn : Turn} {results rest : List Turn} :
      turn.role ≠ .tool → List.Forall₂ ToolCall.AnsweredBy turn.asked results → Paired rest →
      Paired (turn :: (results ++ rest))

/-- The calls of a history are answered, and no turn but the first is a summary. -/
structure WellFormed (turns : List Turn) : Prop where
  paired : Paired turns
  summaries : ∀ turn ∈ turns.tail, turn.summary = false

theorem paired_singleton {turn : Turn} (hrole : turn.role ≠ .tool) (hasked : turn.asked = []) :
    Paired [turn] := by
  show Paired (turn :: ([] ++ []))
  refine .block hrole ?_ .nil
  rw [hasked]
  exact .nil

theorem Paired.append {turns more : List Turn} (h : Paired turns) (hmore : Paired more) :
    Paired (turns ++ more) := by
  induction h with
  | nil => exact hmore
  | block hrole hresults _ ih =>
      rw [List.cons_append, List.append_assoc]
      exact .block hrole hresults ih

theorem role_of_answered {calls : List ToolCall} {results : List Turn}
    (h : List.Forall₂ ToolCall.AnsweredBy calls results) : ∀ turn ∈ results, turn.role = .tool := by
  intro turn hturn
  induction h with
  | nil => cases hturn
  | cons hanswered _ ih =>
      rcases List.mem_cons.mp hturn with heq | hturn
      · rw [heq]
        exact hanswered.1
      · exact ih hturn

/-- A history can be cut where no result follows. -/
theorem Paired.drop {turns : List Turn} (h : Paired turns) (n : Nat)
    (hcut : ∀ turn, turns[n]? = some turn → turn.role ≠ .tool) : Paired (turns.drop n) := by
  induction h generalizing n with
  | nil =>
      rw [List.drop_nil]
      exact .nil
  | @block turn results rest hrole hresults hrest ih =>
      cases n with
      | zero => exact .block hrole hresults hrest
      | succ n =>
          rw [List.getElem?_cons_succ] at hcut
          rw [List.drop_succ_cons]
          by_cases hlt : n < results.length
          -- a cut within the block would be followed by one of its results
          · have hget : (results ++ rest)[n]? = some results[n] := by
              rw [List.getElem?_append_left hlt, List.getElem?_eq_getElem hlt]
            have htool := role_of_answered hresults results[n] (List.getElem_mem hlt)
            exact absurd htool (hcut _ hget)
          -- a cut behind the block is a cut of the rest
          · have hle : results.length ≤ n := Nat.le_of_not_lt hlt
            rw [List.getElem?_append_right hle] at hcut
            rw [List.drop_append, List.drop_eq_nil_of_le hle, List.nil_append]
            exact ih _ hcut

/-! ## Histories that go on -/

theorem WellFormed.append {turns more : List Turn} (h : WellFormed turns) (hmore : Paired more)
    (hsummaries : ∀ turn ∈ more, turn.summary = false) : WellFormed (turns ++ more) where
  paired := h.paired.append hmore
  summaries turn hturn := by
    cases turns with
    | nil => exact hsummaries turn (List.mem_of_mem_tail hturn)
    | cons first rest =>
        rcases List.mem_append.mp hturn with hturn | hturn
        · exact h.summaries turn hturn
        · exact hsummaries turn hturn

namespace Session

/-- The session `s'` has the history of `s` with whole blocks behind it, and its audit trail with
more behind it. -/
structure Extends (s s' : Session) : Prop where
  turns : ∃ more, s'.turns = s.turns ++ more ∧ Paired more ∧ ∀ turn ∈ more, turn.summary = false
  records : s.records <+: s'.records

theorem Extends.trans {s s' s'' : Session} (h : s.Extends s') (h' : s'.Extends s'') :
    s.Extends s'' where
  turns := by
    obtain ⟨more, hturns, hpaired, hsummaries⟩ := h.turns
    obtain ⟨more', hturns', hpaired', hsummaries'⟩ := h'.turns
    refine ⟨more ++ more', ?_, hpaired.append hpaired', ?_⟩
    · rw [hturns', hturns, List.append_assoc]
    · intro turn hturn
      rcases List.mem_append.mp hturn with hturn | hturn
      · exact hsummaries turn hturn
      · exact hsummaries' turn hturn
  records := h.records.trans h'.records

theorem Extends.turns_prefix {s s' : Session} (h : s.Extends s') : s.turns <+: s'.turns := by
  obtain ⟨more, hturns, -⟩ := h.turns
  exact ⟨more, hturns.symm⟩

theorem Extends.wellFormed {s s' : Session} (h : s.Extends s') (hs : WellFormed s.turns) :
    WellFormed s'.turns := by
  obtain ⟨more, hturns, hpaired, hsummaries⟩ := h.turns
  rw [hturns]
  exact hs.append hpaired hsummaries

/-- A turn that calls nothing is a block of its own. -/
theorem extends_addTurn (s : Session) {turn : Turn} (hrole : turn.role ≠ .tool)
    (hasked : turn.asked = []) (hsummary : turn.summary = false) : s.Extends (s.addTurn turn) where
  turns := by
    refine ⟨[turn], rfl, paired_singleton hrole hasked, fun turn' hturn' => ?_⟩
    rw [List.mem_singleton.mp hturn']
    exact hsummary
  records := List.prefix_refl _

end Session

end AgentSessions
