import AgentSessions.Proofs.Compaction.Contract

/-!
# Compacting again

A history that was compacted has nothing to fold: the second search begins one turn further on in a
list that is one turn longer, passes over the same results and ends behind the summary, and a lone
summary is not folded. So compaction is idempotent, and a history that was compacted is not due
again, however much it still costs.
-/

set_option autoImplicit false

namespace AgentSessions.Compaction

/-- The search in a history that was compacted ends behind its summary. -/
theorem splitPoint_compacted {settings : CompactionSettings} {turns folded recent : List Turn}
    (h : split? settings turns = some (folded, recent)) (summary : Turn) :
    splitPoint settings (summary :: recent) = 1 := by
  obtain ⟨-, rfl, -⟩ := splitPoint_of_split? h
  obtain ⟨hpos, hcut⟩ := splitPoint_cuts h
  obtain ⟨n, hn⟩ : ∃ n, n = splitPoint settings turns := ⟨_, rfl⟩
  rw [← hn] at hpos hcut ⊢
  have hsearch : n ≤ turns.length - settings.preserveRecentTurns.toNat :=
    hn ▸ beforeResults_le _ _
  -- a place behind the summary is `n - 1` places further on in the history
  have hplace : ∀ j, (summary :: turns.drop n)[j + 1]? = turns[n + j]? := by
    intro j
    rw [List.getElem?_cons_succ, List.getElem?_drop]
  refine beforeResults_eq ?_ (fun j hlt hle => ?_) (fun turn hturn => ?_)
  · simp only [List.length_cons, List.length_drop]
    omega
  · obtain ⟨i, rfl⟩ : ∃ i, j = i + 1 := ⟨j - 1, by omega⟩
    simp only [List.length_cons, List.length_drop] at hle
    rw [hplace i]
    have hbehind : splitPoint settings turns < n + i := by omega
    exact isToolResult_of_beforeResults_lt hbehind (by omega)
  · exact hcut turn ((hplace 0).symm.trans hturn)

/-- There is nothing to fold in a history that was compacted. -/
theorem split?_compacted {settings : CompactionSettings} {turns folded recent : List Turn}
    (h : split? settings turns = some (folded, recent)) {summary : Turn}
    (hsummary : summary.summary = true) : split? settings (summary :: recent) = none := by
  have hlone : isFoldable ((summary :: recent).take 1) = false := by
    simp [isFoldable, hsummary]
  simp only [split?, splitPoint_compacted h summary, hlone]
  rfl

theorem Comes.split?_eq_none {settings : CompactionSettings}
    {summarize : Option (List Turn → Dialogue (Except SummarizerError String))}
    {turns : List Turn} {trace : List Exchange} {r : CompactionResult}
    (h : Comes settings summarize turns trace r) : split? settings r.turns = none := by
  cases h with
  | spared hsplit => exact hsplit
  | folded now hsplit _ _ => exact split?_compacted hsplit rfl

/-- A history in which there is nothing to fold is left as it is, and nobody is asked. -/
theorem compact_of_split?_eq_none {m : Type → Type} [Monad m] [MonadWarn m]
    {settings : CompactionSettings} {turns : List Turn} (h : split? settings turns = none)
    (summarize : Option (List Turn → m (Except SummarizerError String))) (clock : m Instant) :
    compact settings summarize clock turns = pure (unchanged turns) := by
  simp only [compact, h]

theorem isDue_of_split?_eq_none {settings : CompactionSettings} {turns : List Turn}
    (h : split? settings turns = none) : isDue settings turns = false := by
  simp [isDue, h]

/-- **Compaction is idempotent.** Whatever a compaction came to, another one of what it left, by any
summarizer, changes nothing and asks nobody, and it is not due, whether or not the history is over
its budget. -/
theorem compacting_again_changes_nothing {settings : CompactionSettings}
    {summarize : Option (List Turn → Dialogue (Except SummarizerError String))}
    {clock : Dialogue Instant} {turns : List Turn} {trace : List Exchange} {r : CompactionResult}
    (hpath : (compact settings summarize clock turns).Leads trace (.done r)) :
    (∀ (summarize' : Option (List Turn → Dialogue (Except SummarizerError String)))
      (clock' : Dialogue Instant),
      compact settings summarize' clock' r.turns = pure (unchanged r.turns)) ∧
      (unchanged r.turns).turns = r.turns ∧ (unchanged r.turns).changed = false ∧
      isDue settings r.turns = false := by
  have hspent := (Dialogue.keeps_iff.mp (keeps_compact settings clock turns) trace r
    hpath).split?_eq_none
  exact ⟨fun summarize' clock' => compact_of_split?_eq_none hspent summarize' clock', rfl, rfl,
    isDue_of_split?_eq_none hspent⟩

/-- The history in which a tool was called is still over its budget when it has been compacted. -/
theorem compacting_lookedUp_again_changes_nothing :
    (compact (eager 2) Engine.Summarizer.model.ask? Dialogue.now lookedUp).Leads
        lookedUpCompacted.1 (.done lookedUpCompacted.2) ∧
      lookedUpCompacted.2.changed = true ∧
      (eager 2).triggerTokens.toNat < Tokens.ofTurns lookedUpCompacted.2.turns ∧
      compact (eager 2) Engine.Summarizer.model.ask? Dialogue.now lookedUpCompacted.2.turns =
        pure (unchanged lookedUpCompacted.2.turns) ∧
      isDue (eager 2) lookedUpCompacted.2.turns = false := by
  have hpath := Dialogue.leads_play (fun _ => Dialogue.idleAnswer) 0
    (compact (eager 2) Engine.Summarizer.model.ask? Dialogue.now lookedUp)
  obtain ⟨hagain, -, -, hdue⟩ := compacting_again_changes_nothing hpath
  exact ⟨hpath, by decide +kernel, by decide +kernel, hagain _ _, hdue⟩

end AgentSessions.Compaction
