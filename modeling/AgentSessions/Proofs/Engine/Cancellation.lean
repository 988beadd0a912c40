import AgentSessions.Proofs.Engine.Rounds
import AgentSessions.Proofs.Engine.Runs
import AgentSessions.Proofs.Engine.Trips

/-!
# Runs that are cancelled

The token is looked at when a step begins and before every call, and the model and the tools are
raced against it. So wherever it is tripped, the run comes to the next look without asking the model
again and without starting a tool, and ends there.
-/

set_option autoImplicit false

namespace AgentSessions.Engine

open Dialogue (Calm Does Under under_bind under_now under_report under_isCancelled under_pure
  calm_pure calm_put Yields yields_bind keeps_bind)

/-! ## How runs end -/

/-- The end of a run, after a session with these records. A cancelled run says so last, and where
the session could not be saved, that is the error. -/
inductive SignsOff (s : Session) : Conclusion → Prop where
  | cancelled {s' : Session} {turns : List Turn} {now : Instant} : s'.records = s.records →
      s'.turns = turns ++ [.system "Run cancelled." now] → SignsOff s (s', .error .cancelled)
  | other {s' : Session} {result : Except RunError RunSummary} : s'.records = s.records →
      result ≠ .error .cancelled → SignsOff s (s', result)

theorem SignsOff.records {s : Session} {c : Conclusion} (h : SignsOff s c) :
    c.1.records = s.records := by
  cases h with
  | cancelled h _ => exact h
  | other h _ => exact h

/-- A result with which a run ends that is not cancelled. -/
theorem signsOff_unlessUnsaved {s s' : Session} {expected result : Except RunError RunSummary}
    (hrecords : s'.records = s.records) (hexpected : expected ≠ .error .cancelled)
    (h : UnlessUnsaved expected result) : SignsOff s (s', result) := by
  refine .other hrecords ?_
  rcases h with rfl | ⟨e, rfl⟩
  · exact hexpected
  · intro h
    cases h

theorem calm_abort_signsOff (session : Session) :
    (abort session).Calm Exchange.callMark? fun c =>
      c.2 = .error .cancelled ∧ SignsOff session c := by
  refine (calm_abort overlooks_callMark? overlooksSaves_callMark? session).mono fun c hc => ?_
  obtain ⟨now, rfl⟩ := hc
  exact ⟨rfl, .cancelled rfl rfl⟩

theorem calm_modelFailed_signsOff (session : Session) (e : ModelError) :
    (modelFailed session e).Calm Exchange.callMark? (SignsOff session) := by
  have hfail := calm_modelFailed overlooks_callMark? overlooksSaves_callMark? session e
  refine hfail.mono fun c hc => ?_
  obtain ⟨now, rfl⟩ := hc
  exact .other rfl fun h => by cases h

theorem calm_exhausted_signsOff (limit : UInt32) (st : RunState) :
    (exhausted limit st).Calm Exchange.callMark? (SignsOff st.session) := by
  refine (calm_exhausted overlooks_callMark? overlooksSaves_callMark? limit st).mono fun c hc => ?_
  obtain ⟨now, hsession, hresult⟩ := hc
  have hrecords : c.1.records = st.session.records := by
    rw [hsession]
    rfl
  exact signsOff_unlessUnsaved hrecords (fun h => by cases h) hresult

theorem calm_answered_signsOff (text : String) (st : RunState) :
    (answered text st).Calm Exchange.callMark? (SignsOff st.session) := by
  refine (calm_answered overlooks_callMark? overlooksSaves_callMark? text st).mono fun c hc => ?_
  obtain ⟨now, hsession, hresult⟩ := hc
  have hrecords : c.1.records = st.session.records := by
    rw [hsession]
    rfl
  exact signsOff_unlessUnsaved hrecords (fun h => by cases h) hresult

/-- What becomes of a step whose calls are all settled. -/
theorem ClosesAs.same {setup : Setup} {st st' : RunState} (h : ClosesAs setup st (.next st')) :
    st'.session.records = st.session.records ∧ st'.session.id = st.session.id := by
  cases h with
  | free _ => exact ⟨rfl, rfl⟩
  | forced now _ => exact ⟨rfl, rfl⟩

/-! ## Steps -/

/-- What a part of a run comes to that ends it. If the token is tripped before all its calls are
settled, the run is neither answered nor out of steps; and a cancelled run says so last. -/
def Concluded (setup : Setup) (s : Session) (t : Bool) (ms : List Moment) (t' : Bool)
    (c : Conclusion) : Prop :=
  (∃ records, c.1.records = s.records ++ records ∧ Stage setup s.id t t' ms records ∧
    (settledInTime ms < records.length → ¬Finishes c.2)) ∧
  (c.2 = .error .cancelled → ∃ turns now, c.1.turns = turns ++ [.system "Run cancelled." now])

/-- What a part of a step comes to. -/
def Stepped (setup : Setup) (s : Session) (t : Bool) (ms : List Moment) (t' : Bool) :
    StepResult → Prop
  | .ended c => Concluded setup s t ms t' c
  | .next st => st.session.id = s.id ∧ ∃ records, st.session.records = s.records ++ records ∧
      Stage setup s.id t t' ms records

theorem not_finishes_cancelled : ¬Finishes (.error .cancelled) := by
  rintro (⟨summary, h⟩ | ⟨limit, text, h⟩) <;> cases h

section

variable {setup : Setup} {s : Session} {t t' t'' : Bool} {ms ms' : List Moment} {c : Conclusion}

theorem SignsOff.says (h : SignsOff s c) :
    c.2 = .error .cancelled → ∃ turns now, c.1.turns = turns ++ [.system "Run cancelled." now] := by
  cases h with
  | cancelled _ hturns => exact fun _ => ⟨_, _, hturns⟩
  | other _ hother => exact fun h => absurd h hother

/-- The run ends, and nothing is noted of calls any more. -/
theorem SignsOff.concluded (h : SignsOff s c) (hstage : Stage setup s.id t t' ms []) :
    Concluded setup s t ms t' c :=
  ⟨⟨[], by rw [h.records, List.append_nil], hstage, fun hless => absurd hless (Nat.not_lt_zero _)⟩,
    h.says⟩

/-- The run ends behind a part in which calls were settled. -/
theorem SignsOff.concluded_after {st : RunState} {records : List CallRecord}
    (h : SignsOff st.session c) (hrecords : st.session.records = s.records ++ records)
    (hstage : Stage setup s.id t t' ms records)
    (hrest : Stage setup s.id t' t'' ms' []) (hopen : ¬Finishes c.2) :
    Concluded setup s t (ms ++ ms') t'' c :=
  ⟨⟨records, h.records.trans hrecords, hstage.then_idle hrest, fun _ => hopen⟩, h.says⟩

end

/-- What the calls of an answer come to: they are settled in time or cancelled, save for the one
that is in progress when the token is tripped. -/
theorem under_resolve_stage (setup : Setup) (calls : List ToolCall) (st : RunState)
    (hforced : st.forced = false) (t : Bool) :
    (resolve setup calls st).Under t fun ms t' r => r.2.session.id = st.session.id ∧ ∃ records,
      r.2.session.records = st.session.records ++ records ∧
      Stage setup st.session.id t t' ms records := by
  have hstages : (resolve setup calls st).Under t fun ms t' r => ∃ records,
      r.2.session.records = st.session.records ++ records ∧
      Stage setup st.session.id t t' ms records := by
    cases t with
    | false =>
        refine (under_resolve setup calls st).mono fun ms t' r hr => ?_
        obtain ⟨-, records, hrecords, hstage, -⟩ := hr
        exact ⟨records, hrecords, hstage⟩
    | true =>
        refine (under_resolve_tripped setup st.session.id calls st).mono fun ms t' r hr => ?_
        obtain ⟨rfl, -, hrecords⟩ := hr
        exact hrecords
  refine (hstages.and_keeps (notes_resolve setup calls st hforced)).mono fun ms t' r hr => ?_
  obtain ⟨hrecords, ⟨accounts, -, -, hsettles⟩, -⟩ := hr
  refine ⟨?_, hrecords⟩
  rw [hsettles.session]
  rfl

/-- What the resolving of calls and the end of the step come to: a run that ends here is neither
answered nor out of steps. -/
def Acted (setup : Setup) (s : Session) (t : Bool) (ms : List Moment) (t' : Bool) :
    StepResult → Prop
  | .ended c => Concluded setup s t ms t' c ∧ ¬Finishes c.2
  | .next st => Stepped setup s t ms t' (.next st)

theorem under_act (setup : Setup) (response : ModelResponse) (st : RunState)
    (hforced : st.forced = false) (t : Bool) :
    (act setup response st).Under t (Acted setup st.session t) := by
  refine under_bind.mpr (under_now fun now => ?_)
  refine (under_resolve_stage setup response.toolCalls (st.addCalls response now) hforced
    t).bind fun ms t' r hr => ?_
  obtain ⟨tripped, st'⟩ := r
  obtain ⟨hid, records, hrecords, hstage⟩ := hr
  -- the time is asked for in no time, so the stage of the calls is that of the whole
  have hnow : Stage setup st.session.id t t [⟨⟨.now, now⟩, t, t⟩] [] :=
    .of_silent rfl (unbroken_same rfl)
  have hstage := hnow.after_idle hstage (.inl rfl)
  cases tripped with
  | true =>
      refine ((calm_abort_signsOff st'.session).under t').map fun ms' t'' c hc => ?_
      obtain ⟨hsilent, ⟨hcancelled, hsigns⟩, hunbroken⟩ := hc
      have hopen : ¬Finishes c.2 := hcancelled ▸ not_finishes_cancelled
      rw [← List.append_assoc]
      exact ⟨hsigns.concluded_after hrecords hstage (.of_silent hsilent hunbroken) hopen, hopen⟩
  | false =>
      have hclose := calm_closeStep overlooks_callMark? overlooksSaves_callMark? setup st'
      refine (hclose.under t').mono fun ms' t'' result hresult => ?_
      obtain ⟨hsilent, hcloses, hunbroken⟩ := hresult
      rw [← List.append_assoc]
      cases result with
      | ended c =>
          cases hcloses with
          | @unsaved st'' e hcloses =>
              have hopen : ¬Finishes (.error (.save e)) := by
                rintro (⟨summary, h⟩ | ⟨limit, text, h⟩) <;> cases h
              have hsigns : SignsOff st'.session (st''.session, .error (.save e)) :=
                .other hcloses.same.1 fun h => by cases h
              exact
                ⟨hsigns.concluded_after hrecords hstage (.of_silent hsilent hunbroken) hopen, hopen⟩
      | next st'' =>
          obtain ⟨hrecords', hid'⟩ := hcloses.same
          exact ⟨hid'.trans hid, records, hrecords'.trans hrecords,
            hstage.then_idle (.of_silent hsilent hunbroken)⟩

/-- What comes before the question to the model takes no time. -/
theorem under_requestTurns (setup : Setup) (session : Session) (t : Bool) :
    (requestTurns setup session).Under t fun ms t' _ =>
      t' = t ∧ Silent ms ∧ Unbroken t ms t := by
  unfold requestTurns
  cases setup.systemPrompt with
  | none => exact under_pure ⟨rfl, rfl, rfl⟩
  | some prompt =>
      exact under_bind.mpr (under_now fun now => under_pure ⟨rfl, rfl, unbroken_same rfl⟩)

theorem under_takeStep (setup : Setup) (st : RunState) :
    (takeStep setup st).Under false (Stepped setup st.session false) := by
  refine under_bind.mpr (under_report ?_)
  refine (under_requestTurns setup st.session false).bind fun ms t turns hturns => ?_
  obtain ⟨rfl, hsilent, hunbroken⟩ := hturns
  refine under_bind.mpr fun answer t' hheeds => ?_
  -- everything up to the answer of the model is one part, in which no call is settled
  let st₁ : RunState := { st with steps := st.steps + 1 }
  obtain ⟨pre, hpre⟩ : ∃ pre : List Moment, pre =
      [⟨⟨.report (.stepStart st₁.step), ()⟩, false, false⟩] ++
        (ms ++ [⟨⟨.chat ⟨turns, offered setup st₁⟩, answer⟩, false, t'⟩]) := ⟨_, rfl⟩
  have hidle : Stage setup st.session.id false t' pre [] := by
    rw [hpre]
    refine .idle ?_ ?_ ((unbroken_same rfl).append (hunbroken.append ⟨rfl, hheeds, rfl⟩))
    · simp [vain_cons, Moment.isVain, hsilent.vain]
    · simp [settledInTime_cons, Exchange.settles, hsilent.settledInTime]
  have hchat : t' = true → TripsInChat pre := by
    rintro rfl
    rw [hpre]
    exact ⟨_, List.mem_append_right _ (List.mem_append_right _ (List.mem_singleton_self _)), rfl,
      _, _, rfl⟩
  refine Under.mono (P := fun ms' => Stepped setup st.session false (pre ++ ms')) ?_
    fun ms' t'' result h => by simpa [hpre] using h
  have hend : ∀ {d : Dialogue Conclusion}, d.Calm Exchange.callMark? (SignsOff st.session) →
      (StepResult.ended <$> d).Under t' fun ms' => Stepped setup st.session false (pre ++ ms') :=
    fun hd => (hd.under t').map fun ms' t'' c hc =>
      hc.2.1.concluded (hidle.after_idle (.of_silent hc.1 hc.2.2) (.inr rfl))
  rcases answer with _ | e | response
  · exact hend ((calm_abort_signsOff st.session).mono fun _ h => h.2)
  · exact hend (calm_modelFailed_signsOff st.session e)
  · dsimp only
    split
    · exact hend (calm_answered_signsOff _ st₁)
    · rename_i hact
      have hforced : st.forced = false := by
        simp only [Bool.or_eq_true, not_or, Bool.not_eq_true] at hact
        exact hact.2
      refine (under_act setup response st₁ hforced t').mono
        fun ms' t'' result hresult => ?_
      have hopen : ∀ {records : List CallRecord}, false = false → t' = true →
          settledInTime pre < ([] : List CallRecord).length ∨ TripsInChat pre ∨ records = [] :=
        fun _ ht => .inr (.inl (hchat ht))
      cases result with
      | ended c =>
          obtain ⟨⟨⟨records, hrecords, hstage, -⟩, hsays⟩, hunfinished⟩ := hresult
          exact ⟨⟨records, hrecords, hidle.append hstage hopen, fun _ => hunfinished⟩, hsays⟩
      | next st' =>
          obtain ⟨hid, records, hrecords, hstage⟩ := hresult
          exact ⟨hid, records, hrecords, hidle.append hstage hopen⟩

/-! ## The whole run -/

/-- A run whose token is tripped ends at the next look. -/
theorem under_loop_tripped (setup : Setup) (left : Nat) (st : RunState) :
    (loop setup left st).Under true fun ms t' c =>
      Concluded setup st.session true ms t' c ∧ c.2 = .error .cancelled ∧
        c.1.records = st.session.records := by
  have habort : (abort st.session).Under true fun ms t' c =>
      Concluded setup st.session true ([⟨⟨.isCancelled, true⟩, true, true⟩] ++ ms) t' c ∧
        c.2 = .error .cancelled ∧ c.1.records = st.session.records := by
    refine ((calm_abort_signsOff st.session).under true).mono fun ms t' c hc => ?_
    obtain ⟨hsilent, ⟨hcancelled, hsigns⟩, hunbroken⟩ := hc
    refine ⟨hsigns.concluded ?_, hcancelled, hsigns.records⟩
    exact (Stage.looked setup st.session.id true).then_idle (.of_silent hsilent hunbroken)
  cases left with
  | zero => exact under_bind.mpr (under_isCancelled habort)
  | succ left => exact under_bind.mpr (under_isCancelled habort)

/-- What follows on a part of a run ends it. If the token is tripped by then, no more calls are
settled, and the run is cancelled. -/
theorem Concluded.after {setup : Setup} {s s' : Session} {t t' t'' : Bool} {ms ms' : List Moment}
    {records : List CallRecord} {c : Conclusion} (h : Concluded setup s' t' ms' t'' c)
    (hid : s'.id = s.id) (hrecords : s'.records = s.records ++ records)
    (hstage : Stage setup s.id t t' ms records)
    (htripped : t' = true → c.2 = .error .cancelled ∧ c.1.records = s'.records) :
    Concluded setup s t (ms ++ ms') t'' c := by
  obtain ⟨⟨more, hmore, hrest, hopen⟩, hsays⟩ := h
  rw [hid] at hrest
  refine ⟨⟨records ++ more, ?_, hstage.append hrest fun _ ht => .inr (.inr ?_), ?_⟩, hsays⟩
  · rw [hmore, hrecords, List.append_assoc]
  · have hnil := hmore.symm.trans (htripped ht).2
    simpa using hnil
  · cases t' with
    | true => exact fun _ => (htripped rfl).1 ▸ not_finishes_cancelled
    | false =>
        intro hless
        have hsettled : settledInTime ms = records.length := by
          cases hstage with
          | untripped _ h => exact h
        rw [settledInTime_append, hsettled, List.length_append] at hless
        exact hopen (Nat.lt_of_add_lt_add_left hless)

theorem under_loop (setup : Setup) (left : Nat) (st : RunState) :
    (loop setup left st).Under false (Concluded setup st.session false) := by
  induction left generalizing st with
  | zero =>
      refine under_bind.mpr (under_isCancelled ?_)
      refine ((calm_exhausted_signsOff _ st).under false).mono fun ms t' c hc => ?_
      obtain ⟨hsilent, hsigns, hunbroken⟩ := hc
      exact hsigns.concluded
        ((Stage.looked setup st.session.id false).then_idle (.of_silent hsilent hunbroken))
  | succ left ih =>
      refine under_bind.mpr (under_isCancelled ?_)
      refine (under_takeStep setup st).bind fun ms t' result hresult => ?_
      have hlooked := Stage.looked setup st.session.id false
      simp only [← List.append_assoc]
      cases result with
      | ended c =>
          obtain ⟨⟨records, hrecords, hstage, hopen⟩, hsays⟩ := hresult
          refine under_pure ⟨⟨records, hrecords, ?_, fun hless => hopen ?_⟩, hsays⟩
          · rw [List.append_nil]
            exact hlooked.after_idle hstage (.inl rfl)
          · simpa [settledInTime_cons, Exchange.settles] using hless
      | next st' =>
          obtain ⟨hid, records, hrecords, hstage⟩ := hresult
          have hstage := hlooked.after_idle hstage (.inl rfl)
          -- if the token was tripped in this step, the next look at it ends the run
          cases t' with
          | false =>
              exact (ih st').mono fun ms' t'' c hc =>
                hc.after hid hrecords hstage fun h => by cases h
          | true =>
              exact (under_loop_tripped setup left st').mono fun ms' t'' c hc =>
                hc.1.after hid hrecords hstage fun _ => hc.2

/-- A run that may find its token tripped from the beginning. -/
theorem under_loop_any (setup : Setup) (left : Nat) (st : RunState) (t : Bool) :
    (loop setup left st).Under t fun ms t' c => Concluded setup st.session t ms t' c ∧
      (t = true → c.2 = .error .cancelled ∧ c.1.records = st.session.records) := by
  cases t with
  | false => exact (under_loop setup left st).mono fun ms t' c hc => ⟨hc, fun h => by cases h⟩
  | true => exact (under_loop_tripped setup left st).mono fun ms t' c hc => ⟨hc.1, fun _ => hc.2⟩

theorem under_run (setup : Setup) (session : Session) (prompt : String) (t : Bool) :
    (run setup session prompt).Under t fun ms t' c => Concluded setup session t ms t' c ∧
      (t = true → c.2 = .error .cancelled ∧ c.1.records = session.records) := by
  -- the prompt is added and the history compacted before the token is looked at
  have hconverse : (converse setup session prompt).Under t fun ms t' c =>
      Concluded setup session t ms t' c ∧
        (t = true → c.2 = .error .cancelled ∧ c.1.records = session.records) := by
    refine under_bind.mpr (under_now fun now => ?_)
    have hcompact := calm_compactIfDue overlooks_callMark? (fun _ => rfl) setup
      (Session.addTurn { session with counts := session.counts.startRun } (.user prompt now))
    refine (hcompact.under t).bind fun ms t' s hs => ?_
    obtain ⟨hsilent, ⟨hsame, -⟩, hunbroken⟩ := hs
    have hid : s.id = session.id := by rw [hsame]; rfl
    have hrecords : s.records = session.records := by rw [hsame]; rfl
    have hidle : Stage setup session.id t t' ([⟨⟨.now, now⟩, t, t⟩] ++ ms) [] :=
      .of_silent hsilent ((unbroken_same rfl).append hunbroken)
    refine (under_loop_any setup _ (.start s) t').mono fun ms' t'' c hc => ?_
    obtain ⟨hconcluded, htripped⟩ := hc
    rw [← List.append_assoc]
    refine ⟨hconcluded.after hid (hrecords.trans (List.append_nil _).symm) hidle htripped,
      fun ht => ?_⟩
    obtain ⟨hcancelled, hkept⟩ := htripped (hunbroken.stays ht)
    exact ⟨hcancelled, hkept.trans hrecords⟩
  refine under_bind.mpr (under_report (under_bind.mpr ?_))
  refine hconverse.mono fun ms t' c hc => under_bind.mpr (under_report (under_pure ?_))
  obtain ⟨hconcluded, htripped⟩ := hc
  have hstart : Stage setup session.id t t [⟨⟨.report .runStart, ()⟩, t, t⟩] [] :=
    .of_silent rfl (unbroken_same rfl)
  have hbegun := hconcluded.after rfl (List.append_nil _).symm hstart htripped
  obtain ⟨⟨records, hrecords, hstage, hopen⟩, hsays⟩ := hbegun
  have hclosing : Silent [⟨⟨.report (closingEvent c.2), ()⟩, t', t'⟩] := by
    cases c.2 <;> rfl
  refine ⟨⟨⟨records, hrecords, ?_, fun hless => hopen ?_⟩, hsays⟩, htripped⟩
  · rw [← List.append_assoc]
    exact hstage.then_idle (.of_silent hclosing (unbroken_same rfl))
  · have hnone := hclosing.settledInTime
    rw [← List.append_assoc, settledInTime_append, List.append_nil, hnone] at hless
    exact hless

end AgentSessions.Engine
