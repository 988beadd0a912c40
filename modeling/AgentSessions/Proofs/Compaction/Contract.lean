import AgentSessions.Proofs.Compaction.Split
import AgentSessions.Proofs.Dialogue.Paths
import AgentSessions.Proofs.Text.Truncation

/-!
# What a compaction promises

A compaction leaves a history as it is, or a summary and the last turns of it (`Shortens`): at least
as many as the settings preserve, none of them a result whose call was folded away, and the summary
within its limit. It tells how many turns were folded, whether they were summarized, and what the
history costs before and after. Where a compaction is due, it changes the history.

All this holds whatever the summarizer is and does: it may be any dialogue, and `Told` says of a
path what it answered there.
-/

set_option autoImplicit false

namespace AgentSessions.Compaction

/-! ## Results and their calls -/

/-- Every result in a history comes after the turn that asked for it, with nothing but results in
between. -/
def Anchored (turns : List Turn) : Prop :=
  ∀ (j : Nat) (result : Turn), turns[j]? = some result → result.isToolResult = true →
    ∃ (i : Nat) (caller : Turn), i < j ∧ turns[i]? = some caller ∧ caller.role = .assistant ∧
      (∃ call ∈ caller.toolCalls, result.toolCallId = some call.id) ∧
      ∀ (k : Nat) (turn : Turn), i < k → k < j → turns[k]? = some turn →
        turn.isToolResult = true

/-- A cut where no result follows takes no call from its results. -/
theorem Anchored.drop {turns : List Turn} (h : Anchored turns) {n : Nat}
    (hcut : ∀ turn, turns[n]? = some turn → turn.isToolResult = false) :
    Anchored (turns.drop n) := by
  intro j result hresult htool
  rw [List.getElem?_drop] at hresult
  obtain ⟨i, caller, hlt, hcaller, hrole, hcalls, hbetween⟩ := h (n + j) result hresult htool
  have hkept : n ≤ i := by
    by_contra hfolded
    -- the turn at the cut is a result: the one in question, or one between the call and it
    obtain ⟨turn, hturn, hresult'⟩ : ∃ turn, turns[n]? = some turn ∧ turn.isToolResult = true := by
      by_cases hfirst : j = 0
      · exact ⟨result, by simpa [hfirst] using hresult, htool⟩
      · have hlength : n + j < turns.length := (List.getElem?_eq_some_iff.mp hresult).1
        have hturn : turns[n]? = some turns[n] := List.getElem?_eq_getElem (by omega)
        exact ⟨_, hturn, hbetween n _ (by omega) (by omega) hturn⟩
    rw [hcut turn hturn] at hresult'
    cases hresult'
  refine ⟨i - n, caller, by omega, ?_, hrole, hcalls, fun k turn hik hkj hturn => ?_⟩
  · rw [List.getElem?_drop, Nat.add_sub_cancel' hkept]
    exact hcaller
  · rw [List.getElem?_drop] at hturn
    exact hbetween (n + k) turn (by omega) (by omega) hturn

/-! ## What is folded and what is kept -/

/-- A history is cut where the search ends, if there is something before that place. -/
theorem splitPoint_of_split? {settings : CompactionSettings} {turns folded recent : List Turn}
    (h : split? settings turns = some (folded, recent)) :
    folded = turns.take (splitPoint settings turns) ∧
      recent = turns.drop (splitPoint settings turns) ∧ isFoldable folded = true := by
  simp only [split?] at h
  split at h
  · rename_i hfoldable
    cases h
    exact ⟨rfl, rfl, hfoldable⟩
  · cases h

/-- The search ends within the history, before a turn that is no result. -/
theorem splitPoint_cuts {settings : CompactionSettings} {turns folded recent : List Turn}
    (h : split? settings turns = some (folded, recent)) :
    0 < splitPoint settings turns ∧
      ∀ turn, turns[splitPoint settings turns]? = some turn → turn.isToolResult = false := by
  obtain ⟨hfolded, -, hfoldable⟩ := splitPoint_of_split? h
  have hpos : 0 < splitPoint settings turns := by
    refine Nat.pos_of_ne_zero fun hzero => isFoldable_ne_nil hfoldable ?_
    rw [hfolded, hzero, List.take_zero]
  refine ⟨hpos, fun turn hturn => ?_⟩
  rcases beforeResults_cuts turns (turns.length - settings.preserveRecentTurns.toNat) with
    hzero | hcut
  · rw [splitPoint, hzero] at hpos
    cases hpos
  · simpa [Turn.isToolResult] using hcut turn hturn

/-- A history is shortened to a summary and these last turns. -/
structure Shortens (settings : CompactionSettings) (turns : List Turn) (summary : Turn)
    (recent : List Turn) : Prop where
  suffix : recent <:+ turns
  shorter : recent.length < turns.length
  preserved : min turns.length settings.preserveRecentTurns.toNat ≤ recent.length
  /-- What is kept does not open with a result. -/
  opening : ∀ turn, recent.head? = some turn → turn.isToolResult = false
  /-- No result is kept whose call is folded. -/
  anchored : Anchored turns → Anchored recent
  marked : summary.role = .system ∧ summary.summary = true
  size : summary.content.utf8ByteSize ≤ max settings.maxSummaryChars.toNat 3

theorem shortens_of_split? {settings : CompactionSettings} {turns folded recent : List Turn}
    (h : split? settings turns = some (folded, recent)) (body : String) (now : Instant) :
    Shortens settings turns (summaryTurn settings body now) recent := by
  obtain ⟨-, rfl, -⟩ := splitPoint_of_split? h
  obtain ⟨hpos, hcut⟩ := splitPoint_cuts h
  have hsearch : splitPoint settings turns ≤
      turns.length - settings.preserveRecentTurns.toNat := beforeResults_le _ _
  have hlength : (turns.drop (splitPoint settings turns)).length =
      turns.length - splitPoint settings turns := List.length_drop
  refine ⟨List.drop_suffix _ turns, by omega, by omega, fun turn hturn => hcut turn ?_,
    fun hturns => hturns.drop hcut, ⟨rfl, rfl⟩, Text.utf8ByteSize_truncate_le _ _⟩
  simpa [List.head?_eq_getElem?, List.getElem?_drop] using hturn

/-- A history that is folded has other summaries than before: more of them, or its first turn is one
now. -/
theorem map_summary_fold_ne {settings : CompactionSettings} {turns folded recent : List Turn}
    (h : split? settings turns = some (folded, recent)) (summary : Option String) (now : Instant) :
    (fold settings folded recent summary now).turns.map Turn.summary ≠
      turns.map Turn.summary := by
  obtain ⟨hfolded, hrecent, hfoldable⟩ := splitPoint_of_split? h
  have hturns : turns = folded ++ recent := by
    rw [hfolded, hrecent, List.take_append_drop]
  rw [hturns]
  intro hsame
  have hlength := congrArg List.length hsame
  simp only [fold, List.map_cons, List.map_append, List.length_cons, List.length_append,
    List.length_map] at hsame hlength
  cases folded with
  | nil => exact isFoldable_ne_nil hfoldable rfl
  | cons turn rest =>
      cases rest with
      -- a turn that is folded alone is no summary
      | nil =>
          have hfirst : true = turn.summary := (List.cons.inj hsame).1
          rw [isFoldable, ← hfirst] at hfoldable
          cases hfoldable
      | cons turn' rest =>
          simp only [List.length_cons] at hlength
          omega

/-! ## Paths through a compaction -/

/-- What the summarizer, if there is one, told of the folded turns on this path. -/
inductive Told (summarize : Option (List Turn → Dialogue (Except SummarizerError String)))
    (folded : List Turn) : List Exchange → Option (Except SummarizerError String) → Prop where
  | nobody {trace : List Exchange} : summarize = none → Told summarize folded trace none
  | answered {summarizer : List Turn → Dialogue (Except SummarizerError String)}
      {asked rest : List Exchange} {answer : Except SummarizerError String} :
      summarize = some summarizer → (summarizer folded).Leads asked (.done answer) →
      Told summarize folded (asked ++ rest) (some answer)

/-- There is no summarizer, or it failed. -/
def Unsummarized (told : Option (Except SummarizerError String)) : Prop :=
  told = none ∨ ∃ e, told = some (.error e)

/-- What a compaction comes to after these exchanges. -/
inductive Comes (settings : CompactionSettings)
    (summarize : Option (List Turn → Dialogue (Except SummarizerError String)))
    (turns : List Turn) : List Exchange → CompactionResult → Prop where
  | spared : split? settings turns = none → Comes settings summarize turns [] (unchanged turns)
  | folded {folded recent : List Turn} {trace : List Exchange}
      {told : Option (Except SummarizerError String)} {summary : Option String} (now : Instant) :
      split? settings turns = some (folded, recent) → Told summarize folded trace told →
      (summary = none ↔ Unsummarized told) →
      Comes settings summarize turns trace (fold settings folded recent summary now)

theorem Comes.compacts {settings : CompactionSettings}
    {summarize : Option (List Turn → Dialogue (Except SummarizerError String))}
    {turns : List Turn} {trace : List Exchange} {r : CompactionResult}
    (h : Comes settings summarize turns trace r) : Compacts turns r.turns := by
  cases h with
  | spared _ => exact .unchanged
  | folded now hsplit _ _ => exact .folded _ now hsplit

section

variable {summarize : Option (List Turn → Dialogue (Except SummarizerError String))}

theorem Told.append {folded : List Turn} {trace : List Exchange}
    {told : Option (Except SummarizerError String)} (h : Told summarize folded trace told)
    (rest : List Exchange) : Told summarize folded (trace ++ rest) told := by
  cases h with
  | nobody hnone => exact .nobody hnone
  | answered hsome hpath =>
      rw [List.append_assoc]
      exact .answered hsome hpath

theorem keeps_summary? (folded : List Turn) :
    (summary? summarize folded : Dialogue (Option String)).Keeps fun trace summary =>
      ∃ told, Told summarize folded trace told ∧ (summary = none ↔ Unsummarized told) := by
  cases hsummarizer : summarize with
  | none => exact ⟨none, .nobody rfl, by simp [Unsummarized]⟩
  | some summarizer =>
      refine Dialogue.keeps_bind.mpr (Dialogue.keeps_iff.mpr fun asked answer hasked => ?_)
      cases answer with
      | ok text => exact ⟨some (.ok text), .answered rfl hasked, by simp [Unsummarized]⟩
      | error e => exact fun _ => ⟨some (.error e), .answered rfl hasked, by simp [Unsummarized]⟩

theorem keeps_compact (settings : CompactionSettings) (clock : Dialogue Instant)
    (turns : List Turn) :
    (compact settings summarize clock turns).Keeps (Comes settings summarize turns) := by
  unfold compact
  cases hsplit : split? settings turns with
  | none => exact .spared hsplit
  | some parts =>
      refine Dialogue.keeps_bind.mpr ((keeps_summary? parts.1).mono fun asked summary htold => ?_)
      obtain ⟨told, htold, hsummary⟩ := htold
      refine Dialogue.keeps_bind.mpr ((Dialogue.keeps_true clock).mono fun told' now _ => ?_)
      have hwhole := (htold.append told').append []
      rw [List.append_assoc] at hwhole
      exact .folded now hsplit hwhole hsummary

end

/-! ## The contract -/

theorem isSome_split?_of_isDue {settings : CompactionSettings} {turns : List Turn}
    (h : isDue settings turns = true) : (split? settings turns).isSome = true := by
  rw [isDue, Bool.and_eq_true] at h
  exact h.2

/-- **What a compaction promises.** Whatever the summarizer does, a compaction leaves a history as
it is and asks nobody, or it leaves a summary and the last turns of the history, tells how many
turns were folded, and says that they were dropped exactly if nobody summarized them. The estimates
are those of the history before and after. A compaction that is due changes the history. -/
theorem compaction_keeps_contract {settings : CompactionSettings}
    {summarize : Option (List Turn → Dialogue (Except SummarizerError String))}
    {clock : Dialogue Instant} {turns : List Turn} {trace : List Exchange} {r : CompactionResult}
    (hpath : (compact settings summarize clock turns).Leads trace (.done r)) :
    ((r.turns = turns ∧ r.compactedTurns = 0 ∧ trace = []) ∨
      ∃ summary recent told, r.turns = summary :: recent ∧ Shortens settings turns summary recent ∧
        r.compactedTurns = turns.length - recent.length ∧ 0 < r.compactedTurns ∧
        Told summarize (turns.take r.compactedTurns) trace told ∧
        (r.truncated = true ↔ Unsummarized told)) ∧
      r.tokensBefore = Tokens.ofTurns turns ∧ r.tokensAfter = Tokens.ofTurns r.turns ∧
      (isDue settings turns = true → 0 < r.compactedTurns ∧ r.turns ≠ turns) := by
  cases Dialogue.keeps_iff.mp (keeps_compact settings clock turns) trace r hpath with
  | spared hsplit =>
      -- a history that is due can be split, so this one is not
      refine ⟨.inl ⟨rfl, rfl, rfl⟩, rfl, rfl, fun hdue => ?_⟩
      have hsome := isSome_split?_of_isDue hdue
      rw [hsplit] at hsome
      cases hsome
  | @folded folded recent _ told summary now hsplit htold hsummary =>
      obtain ⟨hfolded, hrecent, hfoldable⟩ := splitPoint_of_split? hsplit
      have hturns : folded ++ recent = turns := by
        rw [hfolded, hrecent, List.take_append_drop]
      have hpos : 0 < folded.length := List.length_pos_iff.mpr (isFoldable_ne_nil hfoldable)
      have htaken : turns.take folded.length = folded := by
        rw [← hturns, List.take_left]
      refine ⟨.inr ⟨_, recent, told, rfl, shortens_of_split? hsplit _ _, ?_, hpos, ?_, ?_⟩, ?_, rfl,
        fun _ => ⟨hpos, fun hsame => map_summary_fold_ne hsplit summary now (by rw [hsame])⟩⟩
      · show folded.length = turns.length - recent.length
        rw [← hturns, List.length_append, Nat.add_sub_cancel]
      · show Told summarize (turns.take folded.length) trace told
        rw [htaken]
        exact htold
      · rw [← hsummary]
        exact Option.isNone_iff_eq_none
      · show Tokens.ofTurns (folded ++ recent) = Tokens.ofTurns turns
        rw [hturns]

/-! ## A history that is cut before a call -/

/-- Settings under which every history is over its budget, and so many turns are preserved. -/
def eager (preserve : UInt64) : CompactionSettings :=
  { (default : CompactionSettings) with contextWindowTokens := 1, preserveRecentTurns := preserve }

/-- A history with the call of a tool. -/
def lookedUp : List Turn :=
  [.user "look" default, .calling "" [Engine.look "a"] default,
    .toolResult ⟨"a"⟩ "seen" false default, .assistant "done" default]

/-- What comes of its compaction by a model that has nothing to say. -/
def lookedUpCompacted : List Exchange × CompactionResult :=
  (compact (eager 2) Engine.Summarizer.model.ask? Dialogue.now lookedUp).play
    (fun _ => Dialogue.idleAnswer) 0

theorem anchored_lookedUp : Anchored lookedUp := by
  intro j result hresult htool
  match j with
  | 2 =>
      cases hresult
      exact ⟨1, _, by omega, rfl, rfl, ⟨_, List.mem_cons_self, rfl⟩, fun k _ _ _ _ => by omega⟩
  | 0 | 1 | 3 =>
      cases hresult
      cases htool
  | j + 4 => cases hresult

/-- Two turns are to be kept, and the call before them is kept with them. -/
theorem lookedUp_compaction_keeps_contract :
    (compact (eager 2) Engine.Summarizer.model.ask? Dialogue.now lookedUp).Leads
        lookedUpCompacted.1 (.done lookedUpCompacted.2) ∧
      isDue (eager 2) lookedUp = true ∧ Anchored lookedUp ∧
      lookedUpCompacted.2.compactedTurns = 1 ∧ lookedUpCompacted.2.truncated = true ∧
      lookedUpCompacted.2.turns ≠ lookedUp ∧
      ∃ summary recent, lookedUpCompacted.2.turns = summary :: recent ∧
        Shortens (eager 2) lookedUp summary recent ∧ Anchored recent := by
  have hpath := Dialogue.leads_play (fun _ => Dialogue.idleAnswer) 0
    (compact (eager 2) Engine.Summarizer.model.ask? Dialogue.now lookedUp)
  have hdue : isDue (eager 2) lookedUp = true := by decide +kernel
  have hfolded : lookedUpCompacted.2.compactedTurns = 1 := by decide +kernel
  obtain ⟨hturns, -, -, hchanges⟩ := compaction_keeps_contract hpath
  refine ⟨hpath, hdue, anchored_lookedUp, hfolded, by decide +kernel, (hchanges hdue).2, ?_⟩
  rcases hturns with ⟨-, hnothing, -⟩ | ⟨summary, recent, told, hsplit, hshortens, -⟩
  · exact absurd (hnothing.symm.trans hfolded) (by decide)
  · exact ⟨summary, recent, hsplit, hshortens, hshortens.anchored anchored_lookedUp⟩

end AgentSessions.Compaction
