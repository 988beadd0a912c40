import AgentSessions.Compaction.Basic
import AgentSessions.Proofs.History.WellFormed

/-!
# Where histories are cut

A compaction folds at least one turn and keeps the rest of the history as it is, and what it keeps
does not open with the result of a call. So a well-formed history stays well-formed, whatever the
settings are and whatever the summary says.
-/

set_option autoImplicit false

namespace AgentSessions.Compaction

theorem beforeResults_cuts (turns : List Turn) (split : Nat) :
    beforeResults turns split = 0 ∨
      ∀ turn, turns[beforeResults turns split]? = some turn → turn.role ≠ .tool := by
  induction split with
  | zero => exact .inl rfl
  | succ split ih =>
      unfold beforeResults
      cases hturn : turns[split + 1]? with
      | none =>
          right
          intro turn h
          rw [hturn] at h
          cases h
      | some next =>
          by_cases hresult : next.isToolResult = true
          · simp only [hresult, if_true]
            exact ih
          · right
            intro turn h hrole
            simp only [hresult] at h
            rw [if_neg Bool.false_ne_true, hturn, Option.some.injEq] at h
            rw [h, Turn.isToolResult, hrole] at hresult
            exact hresult rfl

theorem beforeResults_le (turns : List Turn) (split : Nat) : beforeResults turns split ≤ split := by
  induction split with
  | zero => exact Nat.le_refl 0
  | succ split ih =>
      unfold beforeResults
      split
      · split <;> omega
      · exact Nat.le_refl _

/-- The search passes over nothing but results. -/
theorem isToolResult_of_beforeResults_lt {turns : List Turn} {split j : Nat}
    (hlt : beforeResults turns split < j) (hle : j ≤ split) :
    ∃ turn, turns[j]? = some turn ∧ turn.isToolResult = true := by
  induction split with
  | zero =>
      have hzero : beforeResults turns 0 = 0 := rfl
      omega
  | succ split ih =>
      unfold beforeResults at hlt
      split at hlt
      · rename_i turn hturn
        split at hlt
        · rename_i hresult
          -- the place before is looked at next, unless it is the one in question
          by_cases hlast : j = split + 1
          · exact ⟨turn, hlast ▸ hturn, hresult⟩
          · exact ih hlt (by omega)
        · omega
      · omega

/-- The search ends at the one place that no result follows, before which it finds results only. -/
theorem beforeResults_eq {turns : List Turn} {n split : Nat} (hle : n ≤ split)
    (hresults : ∀ j, n < j → j ≤ split → ∃ turn, turns[j]? = some turn ∧ turn.isToolResult = true)
    (hcut : ∀ turn, turns[n]? = some turn → turn.isToolResult = false) :
    beforeResults turns split = n := by
  have hend := beforeResults_le turns split
  rcases Nat.lt_trichotomy (beforeResults turns split) n with hlt | heq | hgt
  · -- had it gone on past the place, the place would hold a result
    obtain ⟨turn, hturn, hresult⟩ := isToolResult_of_beforeResults_lt hlt hle
    rw [hcut turn hturn] at hresult
    cases hresult
  · exact heq
  · obtain ⟨turn, hturn, hresult⟩ := hresults _ hgt hend
    rcases beforeResults_cuts turns split with hzero | hstop
    · omega
    · have hrole := hstop turn hturn
      rw [Turn.isToolResult, beq_iff_eq] at hresult
      exact absurd hresult hrole

theorem isFoldable_ne_nil {turns : List Turn} (h : isFoldable turns = true) : turns ≠ [] := by
  intro heq
  rw [heq] at h
  cases h

/-- What is folded and what is kept. -/
theorem split?_eq_some {settings : CompactionSettings} {turns folded recent : List Turn}
    (h : split? settings turns = some (folded, recent)) :
    ∃ n, 0 < n ∧ folded = turns.take n ∧ recent = turns.drop n ∧
      ∀ turn, turns[n]? = some turn → turn.role ≠ .tool := by
  unfold split? at h
  dsimp only at h
  split at h
  · rename_i hfoldable
    cases h
    have hne := isFoldable_ne_nil hfoldable
    -- a cut at the very front leaves nothing to fold, and is not made
    rcases beforeResults_cuts turns (turns.length - settings.preserveRecentTurns.toNat) with
      hzero | hcut
    · have hsplit : splitPoint settings turns = 0 := hzero
      rw [hsplit] at hne
      exact absurd rfl hne
    · refine ⟨splitPoint settings turns, ?_, rfl, rfl, hcut⟩
      refine Nat.pos_of_ne_zero fun hzero => ?_
      rw [hzero] at hne
      exact hne rfl
  · cases h

/-- A well-formed history stays so when it is compacted. -/
theorem wellFormed_fold {settings : CompactionSettings} {turns folded recent : List Turn}
    (hturns : WellFormed turns) (h : split? settings turns = some (folded, recent))
    (summary : Option String) (now : Instant) :
    WellFormed (fold settings folded recent summary now).turns := by
  obtain ⟨n, hpos, -, rfl, hcut⟩ := split?_eq_some h
  constructor
  · show Paired (_ :: ([] ++ _))
    exact .block Role.noConfusion .nil (hturns.paired.drop n hcut)
  · intro turn hturn
    refine hturns.summaries turn ?_
    rw [← List.drop_one]
    exact List.drop_subset_drop_left turns hpos hturn

/-- What becomes of a history that may be compacted. -/
inductive Compacts (turns : List Turn) : List Turn → Prop where
  | unchanged : Compacts turns turns
  | folded {settings : CompactionSettings} {folded recent : List Turn} (summary : Option String)
      (now : Instant) : split? settings turns = some (folded, recent) →
      Compacts turns (fold settings folded recent summary now).turns

theorem Compacts.wellFormed {turns turns' : List Turn} (h : Compacts turns turns')
    (hturns : WellFormed turns) : WellFormed turns' := by
  cases h with
  | unchanged => exact hturns
  | folded summary now hsplit => exact wellFormed_fold hturns hsplit summary now

end AgentSessions.Compaction
