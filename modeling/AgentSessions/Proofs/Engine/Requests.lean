import AgentSessions.Proofs.Compaction.Contract
import AgentSessions.Proofs.Engine.Runs
import AgentSessions.Proofs.Engine.Summary
import AgentSessions.Settings.Validation

/-!
# What the model is shown

Each step shows the model the history, behind the system prompt if there is one: first the history
as it is when the prompt was added and the history compacted (`Readied`), and then with all that the
steps before have added to it. What a step adds is determined by the answer that it heard
(`StepAdds`): the turn that calls the tools, the results of the calls, and the word that a quota is
used up, if it is.

The prompt stands at the end of the first request, unless it was folded away with everything else:
that is the case if no turns are preserved and the history is due with the prompt (`FoldsAll`).
-/

set_option autoImplicit false

namespace AgentSessions

namespace Engine

open Dialogue (Does Keeps keeps_bind does_pure calm_pure calm_put)

/-- What a request has to show of a history: the system prompt, if there is one, and all turns. -/
def Setup.Shows (setup : Setup) (shown history : List Turn) : Prop :=
  match setup.systemPrompt with
  | none => shown = history
  | some prompt => ∃ now, shown = .system prompt now :: history

/-- What the history is when the first step begins. -/
inductive Readied (compaction : Option (CompactionSettings × Summarizer)) (turns : List Turn) :
    List Turn → Prop where
  | spared : (∀ settings summarizer, compaction = some (settings, summarizer) →
      Compaction.isDue settings turns = false) → Readied compaction turns turns
  | folded {settings : CompactionSettings} {summarizer : Summarizer} {folded recent : List Turn}
      (summary : Option String) (now : Instant) : compaction = some (settings, summarizer) →
      Compaction.isDue settings turns = true →
      Compaction.split? settings turns = some (folded, recent) →
      Readied compaction turns (Compaction.fold settings folded recent summary now).turns

/-- The history is due, and none of its turns is preserved. -/
def FoldsAll (compaction : Option (CompactionSettings × Summarizer)) (turns : List Turn) : Prop :=
  ∃ settings summarizer, compaction = some (settings, summarizer) ∧
    settings.preserveRecentTurns = 0 ∧ Compaction.isDue settings turns = true

/-- The last turn of a history stays where it is when turns are preserved. -/
theorem getLast?_of_split? {settings : CompactionSettings} {turns folded recent : List Turn}
    {turn : Turn}
    (h : Compaction.split? settings (turns ++ [turn]) = some (folded, recent))
    (hpreserve : settings.preserveRecentTurns ≠ 0) : recent.getLast? = some turn := by
  have hshortens := Compaction.shortens_of_split? h "" default
  have hkept := hshortens.preserved
  have hpos : 0 < settings.preserveRecentTurns.toNat :=
    Nat.pos_of_ne_zero fun hzero => hpreserve (UInt64.toNat_inj.mp hzero)
  rw [List.length_append, List.length_singleton] at hkept
  -- so at least one turn is kept, and what is kept is the end of the history
  have hne : recent ≠ [] := List.length_pos_iff.mp (by omega)
  obtain ⟨front, hfront⟩ := hshortens.suffix
  rw [← List.getLast?_append_of_ne_nil front hne, hfront, List.getLast?_concat]

theorem Readied.getLast? {compaction : Option (CompactionSettings × Summarizer)}
    {turns history : List Turn} {turn : Turn} (h : Readied compaction (turns ++ [turn]) history)
    (hkept : ¬FoldsAll compaction (turns ++ [turn])) : history.getLast? = some turn := by
  cases h with
  | spared _ => exact List.getLast?_concat
  | folded summary now hsome hdue hsplit =>
      have hlast := getLast?_of_split? hsplit fun hzero => hkept ⟨_, _, hsome, hzero, hdue⟩
      have hne := List.ne_nil_of_mem (List.mem_of_getLast? hlast)
      exact (List.getLast?_cons_of_ne_nil hne).trans hlast

/-- What a request shows ends as the history does. -/
theorem Setup.Shows.getLast? {setup : Setup} {shown history : List Turn} {turn : Turn}
    (h : setup.Shows shown history) (hlast : history.getLast? = some turn) :
    shown.getLast? = some turn := by
  unfold Setup.Shows at h
  split at h
  · rw [h]
    exact hlast
  · obtain ⟨now, rfl⟩ := h
    have hne := List.ne_nil_of_mem (List.mem_of_getLast? hlast)
    exact (List.getLast?_cons_of_ne_nil hne).trans hlast

end Engine

end AgentSessions
