import AgentSessions.Proofs.Compaction.Contract
import AgentSessions.Proofs.Engine.Asides

/-!
# Compactions before a run

Before its first step a run has its history compacted, if there is a compactor and the history is
due. What a compactor does is up to it, but it only asks for the time and for summaries. So all that
a compaction does is a path through the compactor (`Prepares`), a report of it, and another history;
marks that leave out what is asked by the way have at most the report.

Of the compactor by settings more is known: it keeps the history or folds the older turns of it
(`Setup.Contextual`).
-/

set_option autoImplicit false

namespace AgentSessions.Engine

open Dialogue (keeps_iff keeps_bind Calm Does)

/-- There is a compactor, and the history is due. -/
def isDueFor (compactor : Option Compactor) (turns : List Turn) : Bool :=
  compactor.any fun k => k.isDue turns

/-- What is asked to compact a history, and the history that comes of it. -/
inductive Prepares (compactor : Option Compactor) (turns : List Turn) :
    List Exchange → List Turn → Prop where
  | spared : isDueFor compactor turns = false → Prepares compactor turns [] turns
  | compacted {k : Compactor} {asked : List Exchange} {r : CompactionResult} :
      compactor = some k → k.isDue turns = true → (k.compact turns).Leads asked (.done r) →
      Prepares compactor turns asked r.turns

/-- What becomes of a history before the first step. -/
def Setup.Compacts (setup : Setup) (turns history : List Turn) : Prop :=
  ∃ asked, Prepares setup.compaction turns asked history

theorem Prepares.servesCompaction {compactor : Option Compactor} {turns history : List Turn}
    {asked : List Exchange} (h : Prepares compactor turns asked history) :
    ∀ x ∈ asked, x.question.servesCompaction = true := by
  cases h with
  | spared _ =>
      intro x hx
      cases hx
  | compacted _ _ hpath => exact (Compactor.asks _ turns).of_leads hpath

/-- A compaction changes nothing of a session but its history, and reports at most one result. -/
theorem keeps_compactIfDue (setup : Setup) (session : Session) :
    (compactIfDue setup session).Keeps fun trace s =>
      ∃ (asked : List Exchange) (compaction : Option CompactionResult),
        trace = asked ++ compaction.toList.map
          (fun r => ⟨.report (compactionEvent r), ()⟩) ∧
        s = { session with turns := s.turns } ∧
        Prepares setup.compaction session.turns asked s.turns := by
  unfold compactIfDue
  cases hcompaction : setup.compaction with
  | none => exact ⟨[], none, rfl, rfl, .spared rfl⟩
  | some k =>
      dsimp only
      split
      · rename_i hdue
        refine keeps_bind.mpr (keeps_iff.mpr fun asked r hpath => ?_)
        have hprepares : Prepares (some k) session.turns asked r.turns := .compacted rfl hdue hpath
        split
        · exact fun _ => ⟨asked, some r, rfl, rfl, hprepares⟩
        · exact ⟨asked, none, rfl, rfl, hprepares⟩
      · rename_i hidle
        exact ⟨[], none, rfl, rfl, .spared (by simpa [isDueFor] using hidle)⟩

section

variable {μ : Type} {mark? : Exchange → Option μ}

/-- What serves a compaction is asked by the way. -/
theorem Prepares.overlooked (h : Overlooks mark?) {compactor : Option Compactor}
    {turns history : List Turn} {asked : List Exchange}
    (hprepares : Prepares compactor turns asked history) : asked.filterMap mark? = [] := by
  refine List.filterMap_eq_nil_iff.mpr fun x hx => h x.question x.answer ?_
  have hserves := hprepares.servesCompaction x hx
  cases hquestion : x.question with
  | now | consult | summarize | warn => rfl
  | isCancelled | chat | check | confirm | execute | review | save | report =>
      rw [hquestion] at hserves
      cases hserves

/-- A compaction is reported once if it changed the history. -/
theorem does_compactIfDue (h : Overlooks mark?) (setup : Setup) (session : Session) :
    (compactIfDue setup session).Does mark? fun ms s =>
      (∃ compaction : Option CompactionResult, ms = compaction.toList.filterMap fun r =>
        mark? ⟨.report (compactionEvent r), ()⟩) ∧
      s = { session with turns := s.turns } ∧ setup.Compacts session.turns s.turns := by
  refine (keeps_compactIfDue setup session).mono fun trace s hs => ?_
  obtain ⟨asked, compaction, rfl, hsame, hprepares⟩ := hs
  refine ⟨⟨compaction, ?_⟩, hsame, asked, hprepares⟩
  rw [List.filterMap_append, hprepares.overlooked h, List.nil_append, List.filterMap_map]
  rfl

/-- Where the report of a compaction is left out as well, a compaction is calm. -/
theorem calm_compactIfDue (h : Overlooks mark?)
    (hreport : ∀ r, mark? ⟨.report (compactionEvent r), ()⟩ = none) (setup : Setup)
    (session : Session) :
    (compactIfDue setup session).Calm mark? fun s =>
      s = { session with turns := s.turns } ∧ setup.Compacts session.turns s.turns := by
  refine (does_compactIfDue h setup session).mono fun ms s hs => ⟨?_, hs.2⟩
  obtain ⟨⟨compaction, rfl⟩, -⟩ := hs
  exact List.filterMap_eq_nil_iff.mpr fun r _ => hreport r

end

/-! ## The compactor by settings -/

/-- The compactor of the setup is the one with these settings, by this summarizer; or there is none.
-/
def Setup.CompactsBy (setup : Setup) (compaction : Option (CompactionSettings × Summarizer)) :
    Prop :=
  setup.compaction = compaction.map fun c => .context c.1 c.2

theorem Setup.CompactsBy.eq_context {setup : Setup}
    {compaction : Option (CompactionSettings × Summarizer)} (h : setup.CompactsBy compaction)
    {k : Compactor} (hk : setup.compaction = some k) :
    ∃ settings summarizer, compaction = some (settings, summarizer) ∧
      k = .context settings summarizer := by
  obtain ⟨⟨settings, summarizer⟩, hby, rfl⟩ := Option.map_eq_some_iff.mp (h.symm.trans hk)
  exact ⟨settings, summarizer, hby, rfl⟩

theorem Compactor.comes_of_leads {settings : CompactionSettings} {summarizer : Summarizer}
    {turns : List Turn} {trace : List Exchange} {r : CompactionResult}
    (hpath : ((Compactor.context settings summarizer).compact turns).Leads trace (.done r)) :
    Compaction.Comes settings summarizer.ask? turns trace r :=
  keeps_iff.mp (Compaction.keeps_compact settings Dialogue.now turns) trace r hpath

/-- If the setup has a compactor, it is one by settings. -/
def Setup.Contextual (setup : Setup) : Prop :=
  ∃ compaction, setup.CompactsBy compaction

theorem Setup.contextual_plain : Setup.plain.Contextual :=
  ⟨none, rfl⟩

theorem Setup.Compacts.of_contextual {setup : Setup} (hsetup : setup.Contextual)
    {turns history : List Turn} (h : setup.Compacts turns history) :
    Compaction.Compacts turns history := by
  obtain ⟨asked, hprepares⟩ := h
  cases hprepares with
  | spared _ => exact .unchanged
  | compacted hsome _ hpath =>
      obtain ⟨compaction, hcompaction⟩ := hsetup
      obtain ⟨settings, summarizer, -, rfl⟩ := hcompaction.eq_context hsome
      exact (Compactor.comes_of_leads hpath).compacts

end AgentSessions.Engine
