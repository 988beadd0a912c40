import AgentSessions.Proofs.Engine.Accounts
import AgentSessions.Proofs.Engine.Compactors

/-!
# Rounds of a run

A run goes round by round: the model is asked, and if it calls tools, its calls are resolved. A
`Round` is one answer with the accounts of its calls. `Unfolds` lists the rounds of a run from a
session on, with all that is seen of them, up to the session that the run leaves: between the rounds
and after the last one nothing but text is added (`Talks`), and the run ends in one of a few ways
(`Concludes`), with no tools on offer once a call was refused.
-/

set_option autoImplicit false

namespace AgentSessions.Engine

open Dialogue (does_pure does_pure_after calm_pure calm_put Does Calm)

/-! ## Rounds -/

/-- An answer that calls tools, and what became of its calls. -/
structure Round where
  response : ModelResponse
  time : Instant
  accounts : List Account
  calling : response.hasToolCalls = true
  answered : accounts.map Account.call = response.toolCalls

namespace Round

/-- The turn that calls the tools. -/
def turn (r : Round) : Turn :=
  .calling r.response.content r.response.toolCalls r.time

/-- The session after the round. -/
def play (s : Session) (step : UInt32) (r : Round) : Session :=
  enter (s.addTurn r.turn) step r.accounts

/-- What is seen of a round before its calls are resolved. -/
def lead (tools : List ToolSpec) (r : Round) : List CallMark :=
  [.looked false, .asked tools (some (.ok r.response))]

end Round

/-- The session `s'` is `s` with turns behind it that neither call tools nor give results. -/
structure Talks (s s' : Session) : Prop where
  turns : ∃ more, s'.turns = s.turns ++ more ∧
    ∀ turn ∈ more, turn.hasToolCalls = false ∧ turn.isToolResult = false
  records : s'.records = s.records
  counts : s'.counts = s.counts

theorem talks_refl (s : Session) : Talks s s :=
  ⟨⟨[], (List.append_nil _).symm, fun _ h => absurd h List.not_mem_nil⟩, rfl, rfl⟩

theorem talks_addTurn (s : Session) {turn : Turn} (hcalls : turn.hasToolCalls = false)
    (hresult : turn.isToolResult = false) : Talks s (s.addTurn turn) where
  turns := by
    refine ⟨[turn], rfl, fun turn' hturn' => ?_⟩
    rw [List.mem_singleton.mp hturn']
    exact ⟨hcalls, hresult⟩
  records := rfl
  counts := rfl

theorem Talks.trans {s s' s'' : Session} (h : Talks s s') (h' : Talks s' s'') : Talks s s'' where
  turns := by
    obtain ⟨more, hturns, hplain⟩ := h.turns
    obtain ⟨more', hturns', hplain'⟩ := h'.turns
    refine ⟨more ++ more', ?_, fun turn hturn => ?_⟩
    · rw [hturns', hturns, List.append_assoc]
    · rcases List.mem_append.mp hturn with hturn | hturn
      · exact hplain turn hturn
      · exact hplain' turn hturn
  records := h'.records.trans h.records
  counts := h'.counts.trans h.counts

/-- How a run ends at the beginning of a step, when these tools are offered: it is found cancelled,
its steps are used up, or the model is asked for the last time. -/
inductive Concludes (tools : List ToolSpec) : List CallMark → Prop where
  | cancelled : Concludes tools [.looked true]
  | exhausted : Concludes tools [.looked false]
  | asked (answer : Option (Except ModelError ModelResponse)) :
      Concludes tools [.looked false, .asked tools answer]

/-- The rounds of a run that has taken so many steps, what is seen of them, and the session that the
run leaves. -/
inductive Unfolds (setup : Setup) :
    (steps : Nat) → Session → List Round → List CallMark → Session → Prop where
  | ends {steps : Nat} {s s' : Session} {ms : List CallMark} :
      Concludes setup.tools ms → Talks s s' → Unfolds setup steps s [] ms s'
  /-- The run is cancelled in a round, or its session cannot be saved. -/
  | breaksOff {steps : Nat} {s s' : Session} {round : Round} {ms : List CallMark}
      {upshot : Upshot} : Resolves setup s.counts round.accounts ms upshot →
      Talks (round.play s (UInt32.ofNat (steps + 1))) s' →
      Unfolds setup steps s [round] (round.lead setup.tools ++ ms) s'
  /-- A call was refused, and the run ends without tools. -/
  | forced {steps : Nat} {s s' : Session} {round : Round} {ms closing : List CallMark} :
      Resolves setup s.counts round.accounts ms .forced → Concludes [] closing →
      Talks (round.play s (UInt32.ofNat (steps + 1))) s' →
      Unfolds setup steps s [round] (round.lead setup.tools ++ (ms ++ closing)) s'
  | step {steps : Nat} {s s' s'' : Session} {round : Round} {rounds : List Round}
      {ms ms' : List CallMark} : Resolves setup s.counts round.accounts ms .goesOn →
      Talks (round.play s (UInt32.ofNat (steps + 1))) s' →
      Unfolds setup (steps + 1) s' rounds ms' s'' →
      Unfolds setup steps s (round :: rounds) (round.lead setup.tools ++ (ms ++ ms')) s''

theorem Unfolds.resolves {setup : Setup} {steps : Nat} {s s' : Session} {rounds : List Round}
    {ms : List CallMark} (h : Unfolds setup steps s rounds ms s') :
    ∀ round ∈ rounds, ∃ c ms upshot, Resolves setup c round.accounts ms upshot := by
  induction h with
  | ends _ _ => exact fun round hround => absurd hround List.not_mem_nil
  | breaksOff hresolves _ =>
      intro round hround
      obtain rfl := List.mem_singleton.mp hround
      exact ⟨_, _, _, hresolves⟩
  | forced hresolves _ _ =>
      intro round hround
      obtain rfl := List.mem_singleton.mp hround
      exact ⟨_, _, _, hresolves⟩
  | step hresolves _ _ ih => exact List.forall_mem_cons.mpr ⟨⟨_, _, _, hresolves⟩, ih⟩

/-! ## The ends of a run -/

theorem calm_abort_talks (session : Session) :
    (abort session).Calm Exchange.callMark? fun c => Talks session c.1 := by
  refine (calm_abort overlooks_callMark? overlooksSaves_callMark? session).mono fun c hc => ?_
  obtain ⟨now, rfl⟩ := hc
  exact talks_addTurn session rfl rfl

theorem calm_modelFailed_talks (session : Session) (e : ModelError) :
    (modelFailed session e).Calm Exchange.callMark? fun c => Talks session c.1 := by
  have hfail := calm_modelFailed overlooks_callMark? overlooksSaves_callMark? session e
  refine hfail.mono fun c hc => ?_
  obtain ⟨now, rfl⟩ := hc
  exact talks_addTurn session rfl rfl

theorem calm_exhausted_talks (limit : UInt32) (st : RunState) :
    (exhausted limit st).Calm Exchange.callMark? fun c => Talks st.session c.1 := by
  refine (calm_exhausted overlooks_callMark? overlooksSaves_callMark? limit st).mono fun c hc => ?_
  obtain ⟨now, hsession, -⟩ := hc
  rw [hsession]
  exact talks_addTurn st.session rfl rfl

theorem calm_answered_talks (text : String) (st : RunState) :
    (answered text st).Calm Exchange.callMark? fun c => Talks st.session c.1 := by
  refine (calm_answered overlooks_callMark? overlooksSaves_callMark? text st).mono fun c hc => ?_
  obtain ⟨now, hsession, -⟩ := hc
  rw [hsession]
  exact talks_addTurn st.session rfl rfl

/-! ## Steps -/

/-- What the end of a step adds to a round. -/
theorem ClosesAs.talks {setup : Setup} {st st' : RunState} (h : ClosesAs setup st (.next st')) :
    Talks st.session st'.session ∧ st'.steps = st.steps ∧ st'.forced = st.forced := by
  cases h with
  | free _ => exact ⟨talks_refl st.session, rfl, rfl⟩
  | forced now _ => exact ⟨talks_addTurn st.session rfl rfl, rfl, rfl⟩

/-- What comes of the calls of an answer. -/
inductive Acts (setup : Setup) (response : ModelResponse) (st : RunState) :
    List CallMark → StepResult → Prop where
  | ended {round : Round} {ms : List CallMark} {upshot : Upshot} {c : Conclusion} :
      round.response = response →
      Resolves setup st.session.counts round.accounts ms upshot →
      Talks (round.play st.session st.step) c.1 → Acts setup response st ms (.ended c)
  | next {round : Round} {ms : List CallMark} {st' : RunState} : round.response = response →
      Resolves setup st.session.counts round.accounts ms (.ofResult (false, st')) →
      Talks (round.play st.session st.step) st'.session → st'.steps = st.steps →
      Acts setup response st ms (.next st')

theorem notes_act (setup : Setup) {response : ModelResponse} {st : RunState}
    (hcalls : response.hasToolCalls = true) (hforced : st.forced = false) :
    Notes (Acts setup response st) (act setup response st) := by
  refine (calm_now overlooks_callMark?).then fun now _ => ?_
  have hresolve := notes_resolve setup response.toolCalls (st.addCalls response now) hforced
  refine hresolve.bind fun ms result hresult => ?_
  obtain ⟨tripped, st'⟩ := result
  obtain ⟨accounts, hanswered, hresolves, hsettles⟩ := hresult
  have hsteps : st'.steps = st.steps := hsettles.steps
  -- the answer, its time and what became of its calls make up the round
  obtain ⟨round, hresponse, hround, hplay⟩ : ∃ round : Round, round.response = response ∧
      Resolves setup st.session.counts round.accounts ms (.ofResult (tripped, st')) ∧
      st'.session = round.play st.session st.step :=
    ⟨⟨response, now, accounts, hcalls, hanswered⟩, rfl, hresolves, hsettles.session⟩
  cases tripped with
  | true =>
      refine (calm_abort_talks st'.session).does_map fun c htalks => ?_
      rw [List.append_nil]
      exact .ended hresponse hround (hplay ▸ htalks)
  | false =>
      have hclose := calm_closeStep overlooks_callMark? overlooksSaves_callMark? setup st'
      refine hclose.does fun result hcloses => ?_
      rw [List.append_nil]
      cases result with
      | ended c =>
          cases hcloses with
          | unsaved e hcloses => exact .ended hresponse hround (hplay ▸ hcloses.talks.1)
      | next st'' =>
          obtain ⟨htalks, hsteps', hforced'⟩ := hcloses.talks
          refine .next hresponse ?_ (hplay ▸ htalks) (hsteps'.trans hsteps)
          simp only [Upshot.ofResult, hforced'] at hround ⊢
          exact hround

/-- What comes of a step. -/
inductive Takes (setup : Setup) (st : RunState) : List CallMark → StepResult → Prop where
  | ended {answer : Option (Except ModelError ModelResponse)} {c : Conclusion} :
      Talks st.session c.1 → Takes setup st [.asked (offered setup st) answer] (.ended c)
  | acts {response : ModelResponse} {ms : List CallMark} {result : StepResult} :
      st.forced = false → Acts setup response { st with steps := st.steps + 1 } ms result →
      Takes setup st (.asked setup.tools (some (.ok response)) :: ms) result

theorem notes_chat (request : ModelRequest) :
    Notes (fun ms answer => ms = [.asked request.tools answer])
      (Dialogue.put (.chat request)) := by
  intro answer
  rfl

theorem notes_takeStep (setup : Setup) (st : RunState) :
    Notes (Takes setup st) (takeStep setup st) := by
  refine (calm_put fun _ => rfl).then fun _ _ => ?_
  refine (calm_requestTurns overlooks_callMark? setup _).then fun turns _ => ?_
  refine (notes_chat _).bind fun ms answer hms => ?_
  rw [hms]
  match answer with
  | none => exact (calm_abort_talks st.session).does_map fun _ => .ended
  | some (.error e) => exact (calm_modelFailed_talks st.session e).does_map fun _ => .ended
  | some (.ok response) =>
      dsimp only
      split
      · have hanswered := calm_answered_talks response.content { st with steps := st.steps + 1 }
        exact hanswered.does_map fun c htalks => .ended htalks
      · rename_i hact
        simp only [Bool.or_eq_true, Bool.not_eq_true', not_or, Bool.not_eq_false,
          Bool.not_eq_true] at hact
        obtain ⟨hcalls, hforced⟩ := hact
        have hacts : Notes (Acts setup response { st with steps := st.steps + 1 })
            (act setup response { st with steps := st.steps + 1 }) := notes_act setup hcalls hforced
        refine hacts.mono fun ms' result hresult => ?_
        have hoffered : offered setup { st with steps := st.steps + 1 } = setup.tools :=
          if_neg (by rw [hforced]; exact Bool.false_ne_true)
        rw [hoffered]
        exact .acts hforced hresult

/-! ## The whole run -/

theorem notes_unlessCancelled {session : Session} {next : Dialogue Conclusion}
    {P : List CallMark → Conclusion → Prop}
    (hcancelled : ∀ c, Talks session c.1 → P [.looked true] c)
    (hnext : Notes (fun ms c => P (.looked false :: ms) c) next) :
    Notes P (do if ← Dialogue.isCancelled then abort session else next) := by
  refine does_unlessCancelled notes_isCancelled ?_ hnext
  exact (calm_abort_talks session).does hcancelled

/-- A run ends within a step once a call was refused. -/
theorem notes_loop_forced (setup : Setup) (left : Nat) (st : RunState)
    (hforced : st.forced = true) :
    Notes (fun ms c => Concludes [] ms ∧ Talks st.session c.1) (loop setup left st) := by
  have hoffered : offered setup st = [] := if_pos hforced
  cases left with
  | zero =>
      refine notes_unlessCancelled (fun c hc => ⟨.cancelled, hc⟩) ?_
      exact (calm_exhausted_talks _ st).does fun c htalks => ⟨.exhausted, htalks⟩
  | succ left =>
      refine notes_unlessCancelled (fun c hc => ⟨.cancelled, hc⟩) ?_
      refine (notes_takeStep setup st).bind fun ms result hresult => ?_
      cases hresult with
      | ended htalks =>
          refine does_pure ⟨?_, htalks⟩
          rw [hoffered]
          exact .asked _
      | acts hfree _ =>
          rw [hforced] at hfree
          cases hfree

theorem notes_loop (setup : Setup) (left : Nat) (st : RunState) (hforced : st.forced = false) :
    Notes
      (fun ms c => ∃ rounds : List Round, rounds.length ≤ left ∧
        Unfolds setup st.steps st.session rounds ms c.1)
      (loop setup left st) := by
  induction left generalizing st with
  | zero =>
      refine notes_unlessCancelled (fun c hc => ⟨[], Nat.le_refl 0, .ends .cancelled hc⟩) ?_
      refine (calm_exhausted_talks _ st).does fun c htalks => ?_
      exact ⟨[], Nat.le_refl 0, .ends .exhausted htalks⟩
  | succ left ih =>
      refine notes_unlessCancelled (fun c hc => ⟨[], Nat.zero_le _, .ends .cancelled hc⟩) ?_
      refine (notes_takeStep setup st).bind fun ms result hresult => ?_
      have hoffered : offered setup st = setup.tools :=
        if_neg (by rw [hforced]; exact Bool.false_ne_true)
      cases hresult with
      | ended htalks =>
          refine does_pure ⟨[], Nat.zero_le _, .ends ?_ htalks⟩
          rw [hoffered]
          exact .asked _
      | @acts response ms result _ hacts =>
          cases hacts with
          | @ended round ms upshot c hresponse hresolves htalks =>
              subst hresponse
              refine does_pure ⟨[round], Nat.le_add_left 1 left, ?_⟩
              rw [List.append_nil]
              exact .breaksOff hresolves htalks
          | @next round ms st' hresponse hresolves htalks hsteps =>
              subst hresponse
              have hupshot :
                  Upshot.ofResult (false, st') = if st'.forced then .forced else .goesOn := rfl
              -- once a call was refused, no tools are offered any more and the next step is the
              -- last
              cases hforced' : st'.forced with
              | true =>
                  rw [hupshot, if_pos hforced'] at hresolves
                  refine (notes_loop_forced setup left st' hforced').mono fun closing c hc => ?_
                  exact ⟨[round], Nat.le_add_left 1 left,
                    .forced hresolves hc.1 (htalks.trans hc.2)⟩
              | false =>
                  rw [hupshot, if_neg (by rw [hforced']; exact Bool.false_ne_true)] at hresolves
                  refine (ih st' hforced').mono fun ms' c hc => ?_
                  obtain ⟨rounds, hlength, hunfolds⟩ := hc
                  rw [hsteps] at hunfolds
                  exact ⟨round :: rounds, Nat.succ_le_succ hlength,
                    .step hresolves htalks hunfolds⟩

/-- How a run of a prompt goes: the prompt is added, the history may be compacted with it, and the
rounds follow. -/
def Proceeds (setup : Setup) (session : Session) (prompt : String) (ms : List CallMark)
    (c : Conclusion) : Prop :=
  ∃ history rounds now, rounds.length ≤ setup.settings.maxSteps.toNat ∧
    setup.Compacts (session.turns ++ [.user prompt now]) history ∧
    Unfolds setup 0 ⟨session.id, history, session.records, session.counts.startRun⟩ rounds ms c.1

theorem notes_run (setup : Setup) (session : Session) (prompt : String) :
    Notes (Proceeds setup session prompt) (run setup session prompt) := by
  refine does_run_of_loop overlooks_callMark? overlooksFrame_callMark?
    (calm_compactIfDue overlooks_callMark? (fun _ => rfl) setup) fun now s hs => ?_
  obtain ⟨hsame, hcompacts⟩ := hs
  refine (notes_loop setup _ (.start s) rfl).mono fun ms c hc => ?_
  obtain ⟨rounds, hlength, hunfolds⟩ := hc
  refine ⟨s.turns, rounds, now, hlength, hcompacts, ?_⟩
  rw [hsame] at hunfolds
  exact hunfolds

/-! ## What rounds leave -/

/-- The accounts of rounds, each with the number of its step; `step` is that of the first round. -/
def entries (step : Nat) (rounds : List Round) : List (Account × Nat) :=
  (rounds.zipIdx step).flatMap fun round => round.1.accounts.map (·, round.2)

theorem entries_cons (step : Nat) (round : Round) (rounds : List Round) :
    entries step (round :: rounds) =
      round.accounts.map (·, step) ++ entries (step + 1) rounds :=
  rfl

theorem map_fst_entries (step : Nat) (rounds : List Round) :
    (entries step rounds).map Prod.fst = rounds.flatMap Round.accounts := by
  induction rounds generalizing step with
  | nil => rfl
  | cons round rest ih =>
      have hround : (round.accounts.map (·, step)).map Prod.fst = round.accounts := by
        rw [List.map_map]
        exact List.map_id _
      rw [entries_cons, List.map_append, hround, ih, List.flatMap_cons]

/-- What rounds leave in a session. -/
structure Adds (step : Nat) (s : Session) (rounds : List Round) (s' : Session) : Prop where
  turns : ∃ added, s'.turns = s.turns ++ added ∧
    added.filter Turn.hasToolCalls = rounds.map Round.turn ∧
    added.filter Turn.isToolResult = (rounds.flatMap Round.accounts).map Account.result
  records : s'.records = s.records ++ (entries step rounds).map fun e => e.1.record (.ofNat e.2)
  counts : s'.counts = (rounds.flatMap Round.accounts).foldl Account.count s.counts

theorem Talks.adds {s s' : Session} (h : Talks s s') (step : Nat) : Adds step s [] s' where
  turns := by
    obtain ⟨more, hturns, hplain⟩ := h.turns
    refine ⟨more, hturns, List.filter_eq_nil_iff.mpr ?_, List.filter_eq_nil_iff.mpr ?_⟩
    · intro turn hturn
      rw [(hplain turn hturn).1]
      exact Bool.false_ne_true
    · intro turn hturn
      rw [(hplain turn hturn).2]
      exact Bool.false_ne_true
  records := h.records.trans (List.append_nil _).symm
  counts := h.counts

theorem Round.filter_calling (r : Round) :
    (r.turn :: r.accounts.map Account.result).filter Turn.hasToolCalls = [r.turn] := by
  have hresults : (r.accounts.map Account.result).filter Turn.hasToolCalls = [] := by
    refine List.filter_eq_nil_iff.mpr fun turn hturn => ?_
    obtain ⟨a, -, rfl⟩ := List.mem_map.mp hturn
    exact Bool.false_ne_true
  have hcalling : r.turn.hasToolCalls = true := r.calling
  rw [List.filter_cons_of_pos hcalling, hresults]

theorem Round.filter_results (r : Round) :
    (r.turn :: r.accounts.map Account.result).filter Turn.isToolResult =
      r.accounts.map Account.result := by
  have hcalling : ¬r.turn.isToolResult = true := Bool.false_ne_true
  rw [List.filter_cons_of_neg hcalling, List.filter_eq_self]
  intro turn hturn
  obtain ⟨a, -, rfl⟩ := List.mem_map.mp hturn
  rfl

theorem Adds.cons {step : Nat} {s s' s'' : Session} {round : Round} {rounds : List Round}
    (h : Talks (round.play s (.ofNat step)) s') (h' : Adds (step + 1) s' rounds s'') :
    Adds step s (round :: rounds) s'' where
  turns := by
    obtain ⟨more, hturns, hcalls, hresults⟩ := (h.adds step).turns
    obtain ⟨added, hturns', hcalls', hresults'⟩ := h'.turns
    refine ⟨(round.turn :: round.accounts.map Account.result) ++ more ++ added, ?_, ?_, ?_⟩
    · rw [hturns', hturns]
      simp [Round.play, enter, Session.addTurn]
    · rw [List.filter_append, List.filter_append, round.filter_calling, hcalls, hcalls']
      rfl
    · rw [List.filter_append, List.filter_append, round.filter_results, hresults, hresults']
      simp
  records := by
    rw [h'.records, h.records, entries_cons]
    simp [Round.play, enter, Session.addTurn]
  counts := by
    rw [h'.counts, h.counts]
    simp [Round.play, enter, Session.addTurn]

theorem Unfolds.adds {setup : Setup} {steps : Nat} {s s' : Session} {rounds : List Round}
    {ms : List CallMark} (h : Unfolds setup steps s rounds ms s') :
    Adds (steps + 1) s rounds s' := by
  induction h with
  | ends _ htalks => exact htalks.adds _
  | breaksOff _ htalks => exact .cons htalks ((talks_refl _).adds _)
  | forced _ _ htalks => exact .cons htalks ((talks_refl _).adds _)
  | step _ htalks _ ih => exact .cons htalks ih

end AgentSessions.Engine
