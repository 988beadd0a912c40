import AgentSessions.Proofs.Compaction.Contract

/-!
# What a compaction saves

A compaction puts one summary in the place of the turns it folds, and asks nobody whether that is
cheaper: the summary is bounded by its own limit only. So a compaction that is due shrinks a history
just when its summary costs less than the turns it stands for. A short turn that is folded alone
costs less than any summary, and the history grows (`short_turn_grows_when_folded`).

Every turn costs its overhead, so it helps to fold many of them: where the turns are dropped, eight
are enough, and seven are not.
-/

set_option autoImplicit false

namespace AgentSessions

/-! ## Estimates -/

namespace Tokens

theorem total_append (ns ns' : List Nat) : total (ns ++ ns') = total ns + total ns' := by
  induction ns with
  | nil => exact (Nat.zero_add _).symm
  | cons n ns ih =>
      show n + total (ns ++ ns') = n + total ns + total ns'
      rw [ih]
      omega

theorem ofTurns_append (turns turns' : List Turn) :
    ofTurns (turns ++ turns') = ofTurns turns + ofTurns turns' := by
  rw [ofTurns, List.map_append, total_append]
  rfl

theorem ofTurns_cons (turn : Turn) (turns : List Turn) :
    ofTurns (turn :: turns) = ofTurn turn + ofTurns turns :=
  rfl

theorem ofBytes_mono {bytes bytes' : Nat} (h : bytes ≤ bytes') :
    ofBytes bytes ≤ ofBytes bytes' :=
  Nat.div_le_div_right (Nat.add_le_add_right h _)

/-- Every turn costs its overhead at least. -/
theorem turnOverhead_mul_length_le (turns : List Turn) :
    turnOverhead * turns.length ≤ ofTurns turns := by
  induction turns with
  | nil => exact Nat.le_refl 0
  | cons turn turns ih =>
      have hturn : turnOverhead ≤ ofTurn turn := Nat.le_add_left _ _
      rw [ofTurns_cons, List.length_cons, Nat.mul_succ]
      omega

/-- A turn without calls costs what its text costs, and its overhead. -/
theorem ofTurn_of_no_calls {turn : Turn} (h : turn.toolCalls = []) :
    ofTurn turn = ofBytes turn.content.utf8ByteSize + turnOverhead := by
  simp [ofTurn, h, total]

end Tokens

namespace Compaction

/-! ## What a summary costs -/

/-- The most that a summary costs under these settings. -/
def summaryCap (settings : CompactionSettings) : Nat :=
  Tokens.ofBytes (max settings.maxSummaryChars.toNat 3) + Tokens.turnOverhead

theorem ofTurn_summaryTurn_le_cap (settings : CompactionSettings) (body : String) (now : Instant) :
    Tokens.ofTurn (summaryTurn settings body now) ≤ summaryCap settings := by
  rw [Tokens.ofTurn_of_no_calls rfl]
  exact Nat.add_le_add_right (Tokens.ofBytes_mono (Text.utf8ByteSize_truncate_le _ _)) _

/-- What is said of eight or more dropped turns costs less than their overhead alone. -/
theorem ofTurn_summaryTurn_dropped_lt (settings : CompactionSettings) (now : Instant) {count : Nat}
    (h : 8 ≤ count) :
    Tokens.ofTurn (summaryTurn settings (droppedText count) now) <
      Tokens.turnOverhead * count := by
  have hdigits := Text.utf8ByteSize_toString_le count
  have htext : (heading ++ "\n\n" ++ droppedText count).utf8ByteSize =
      99 + (toString count).utf8ByteSize := by
    have hheading : (heading ++ "\n\n").utf8ByteSize = 45 := by decide +kernel
    have hrest : " earlier turns were removed to fit the context window.".utf8ByteSize = 54 := by
      decide +kernel
    calc (heading ++ "\n\n" ++ droppedText count).utf8ByteSize
        = (heading ++ "\n\n").utf8ByteSize + (droppedText count).utf8ByteSize :=
          String.utf8ByteSize_append
      _ = 45 + ((toString count).utf8ByteSize + 54) := by
          rw [hheading, droppedText, String.utf8ByteSize_append, hrest]
      _ = 99 + (toString count).utf8ByteSize := by omega
  have hcontent : (summaryTurn settings (droppedText count) now).content.utf8ByteSize ≤
      99 + count := by
    have hself : (summaryTurn settings (droppedText count) now).content.utf8ByteSize ≤
        (heading ++ "\n\n" ++ droppedText count).utf8ByteSize :=
      Text.utf8ByteSize_truncate_le_self (by omega) _
    exact Nat.le_trans hself (by omega)
  rw [Tokens.ofTurn_of_no_calls rfl]
  have hcost := Tokens.ofBytes_mono hcontent
  simp only [Tokens.ofBytes, Tokens.bytesPerToken, Tokens.turnOverhead] at hcost ⊢
  omega

/-! ## What is saved -/

/-- A compaction trades the cost of the folded turns for that of the summary. -/
theorem tokens_fold (settings : CompactionSettings) (folded recent : List Turn)
    (summary : Option String) (now : Instant) :
    (fold settings folded recent summary now).tokensAfter + Tokens.ofTurns folded =
      (fold settings folded recent summary now).tokensBefore +
        Tokens.ofTurn (summaryTurn settings (summary.getD (droppedText folded.length)) now) := by
  simp only [fold, Tokens.ofTurns_append, Tokens.ofTurns_cons]
  omega

/-- **When a compaction shrinks a history.** A compaction that is due puts a summary in the place of
the turns it folds, and what it reports after is less than before just if the summary costs less
than those turns. That is so if they cost more than any summary may, and if eight turns or more are
dropped without a summary. -/
theorem due_compaction_shrinks_iff_summary_is_cheaper {settings : CompactionSettings}
    {summarize : Option (List Turn → Dialogue (Except SummarizerError String))}
    {clock : Dialogue Instant} {turns : List Turn} {trace : List Exchange} {r : CompactionResult}
    (hpath : (compact settings summarize clock turns).Leads trace (.done r))
    (hdue : isDue settings turns = true) :
    ∃ summary folded recent, turns = folded ++ recent ∧ r.turns = summary :: recent ∧
      r.compactedTurns = folded.length ∧
      (r.tokensAfter < r.tokensBefore ↔ Tokens.ofTurn summary < Tokens.ofTurns folded) ∧
      (summaryCap settings < Tokens.ofTurns folded → r.tokensAfter < r.tokensBefore) ∧
      (r.truncated = true → 8 ≤ r.compactedTurns → r.tokensAfter < r.tokensBefore) := by
  cases Dialogue.keeps_iff.mp (keeps_compact settings clock turns) trace r hpath with
  | spared hsplit =>
      have hsome := isSome_split?_of_isDue hdue
      rw [hsplit] at hsome
      cases hsome
  | @folded folded recent _ told summary now hsplit htold hsummary =>
      obtain ⟨hfolded, hrecent, -⟩ := splitPoint_of_split? hsplit
      have hturns : turns = folded ++ recent := by
        rw [hfolded, hrecent, List.take_append_drop]
      have htrade := tokens_fold settings folded recent summary now
      have hcap := ofTurn_summaryTurn_le_cap settings
        (summary.getD (droppedText folded.length)) now
      refine ⟨summaryTurn settings (summary.getD (droppedText folded.length)) now, folded, recent,
        hturns, rfl, rfl, by omega, fun hdear => by omega, fun htruncated hmany => ?_⟩
      -- nobody summarized the turns, so it is said how many there were
      have hnone : summary = none := Option.isNone_iff_eq_none.mp htruncated
      subst hnone
      have hdropped := ofTurn_summaryTurn_dropped_lt settings now hmany
      have hoverhead := Tokens.turnOverhead_mul_length_le folded
      simp only [Option.getD_none] at htrade
      simp only [fold] at hdropped htrade ⊢
      omega

/-- Eight turns without any text. -/
def silentTurns : List Turn :=
  List.replicate 8 (.user "" default)

/-- What comes of dropping them. -/
def silentCompacted : List Exchange × CompactionResult :=
  (compact (eager 0) none Dialogue.now silentTurns).play (fun _ => Dialogue.idleAnswer) 0

/-- Eight turns that are dropped cost more than the summary that says so, even if they are empty. -/
theorem eight_dropped_turns_shrink :
    (compact (eager 0) none Dialogue.now silentTurns).Leads silentCompacted.1
        (.done silentCompacted.2) ∧
      isDue (eager 0) silentTurns = true ∧ silentCompacted.2.compactedTurns = 8 ∧
      silentCompacted.2.tokensAfter < silentCompacted.2.tokensBefore := by
  have hpath := Dialogue.leads_play (fun _ => Dialogue.idleAnswer) 0
    (compact (eager 0) none Dialogue.now silentTurns)
  have hdue : isDue (eager 0) silentTurns = true := by decide +kernel
  have hfolded : silentCompacted.2.compactedTurns = 8 := by decide +kernel
  have htruncated : silentCompacted.2.truncated = true := by decide +kernel
  obtain ⟨summary, folded, recent, -, -, -, -, -, hdropped⟩ :=
    due_compaction_shrinks_iff_summary_is_cheaper hpath hdue
  exact ⟨hpath, hdue, hfolded, hdropped htruncated (Nat.le_of_eq hfolded.symm)⟩

/-! ## A history that grows -/

/-- Settings with a window of a hundred tokens, under which the last turn is preserved. -/
def narrow : CompactionSettings :=
  { (default : CompactionSettings) with contextWindowTokens := 100, preserveRecentTurns := 1 }

/-- A short prompt, and an answer that fills the window. -/
def longAnswer : List Turn :=
  [.user "hi" default, .assistant (String.ofList (List.replicate 400 'x')) default]

/-- What comes of its compaction where nobody summarizes. -/
def longAnswerCompacted : List Exchange × CompactionResult :=
  (compact narrow none Dialogue.now longAnswer).play (fun _ => Dialogue.idleAnswer) 0

/-- The history is over its budget and its prompt is folded, but what is said of the prompt costs
more than the prompt did. -/
theorem short_turn_grows_when_folded :
    (compact narrow none Dialogue.now longAnswer).Leads longAnswerCompacted.1
        (.done longAnswerCompacted.2) ∧
      isDue narrow longAnswer = true ∧ longAnswerCompacted.2.compactedTurns = 1 ∧
      longAnswerCompacted.2.tokensBefore = 109 ∧ longAnswerCompacted.2.tokensAfter = 133 := by
  exact ⟨Dialogue.leads_play (fun _ => Dialogue.idleAnswer) 0 _, by decide +kernel,
    by decide +kernel, by decide +kernel, by decide +kernel⟩

end Compaction

end AgentSessions
