import AgentSessions.Proofs.Dialogue.Token
import AgentSessions.Proofs.Engine.Accounts

/-!
# Calls while the token is tripped

Which questions are put in vain, because the token is tripped already and they are raced against it,
and how many calls are settled before it is tripped. From these two the stages of a run are told
apart (`Stage`): before the token is tripped every call is settled in time and nothing is put in
vain; afterwards every call is settled as cancelled; and where it is tripped, the one call in
progress is settled by what is asked about it (`Ends`) and all behind it as cancelled (`Cuts`).

The calls of an answer are resolved in these stages whenever the token is tripped, because the token
is looked at before each of them.
-/

set_option autoImplicit false

namespace AgentSessions

open Json (Object)
open Engine (Ask)

/-! ## Noted moments -/

/-- The question is raced against the token, which is tripped already: it is put to nobody. -/
def Moment.isVain (m : Moment) : Bool :=
  m.before && m.exchange.question.isRaced

/-- What was asked in vain. -/
def vain (ms : List Moment) : List Exchange :=
  exchanges (ms.filter Moment.isVain)

/-- It is told how a call was settled. -/
def Exchange.settles : Exchange → Bool
  | ⟨.report (.toolEnd _ _ _), _⟩ => true
  | _ => false

/-- How many calls were settled before the token was tripped. -/
def settledInTime (ms : List Moment) : Nat :=
  ms.countP fun m => !m.before && m.exchange.settles

@[simp] theorem vain_nil : vain [] = [] := rfl

@[simp] theorem settledInTime_nil : settledInTime [] = 0 := rfl

@[simp] theorem vain_append (ms ms' : List Moment) : vain (ms ++ ms') = vain ms ++ vain ms' := by
  rw [vain, List.filter_append, exchanges_append]
  rfl

@[simp] theorem settledInTime_append (ms ms' : List Moment) :
    settledInTime (ms ++ ms') = settledInTime ms + settledInTime ms' :=
  List.countP_append

theorem vain_cons (m : Moment) (ms : List Moment) :
    vain (m :: ms) = if m.isVain then m.exchange :: vain ms else vain ms := by
  rw [vain, List.filter_cons]
  split <;> rfl

theorem settledInTime_cons (m : Moment) (ms : List Moment) :
    settledInTime (m :: ms) =
      settledInTime ms + if !m.before && m.exchange.settles then 1 else 0 :=
  List.countP_cons

/-- While the token is not tripped nothing is asked in vain. -/
theorem vain_of_unbroken {t : Bool} {ms : List Moment} (h : Unbroken t ms false) :
    vain ms = [] := by
  refine List.map_eq_nil_iff.mpr (List.filter_eq_nil_iff.mpr fun m hm hvain => ?_)
  rw [Moment.isVain, h.before_eq_false m hm] at hvain
  cases hvain

/-- Nothing is noted of the calls. -/
def Silent (ms : List Moment) : Prop :=
  (exchanges ms).filterMap Exchange.callMark? = []

theorem Silent.callMark?_eq_none {ms : List Moment} (h : Silent ms) {m : Moment} (hm : m ∈ ms) :
    m.exchange.callMark? = none :=
  List.filterMap_eq_nil_iff.mp h m.exchange (List.mem_map_of_mem hm)

theorem callMark?_isSome_of_isRaced {e : Exchange} (h : e.question.isRaced = true) :
    e.callMark?.isSome = true := by
  obtain ⟨question, answer⟩ := e
  cases question with
  | chat | execute => rfl
  | _ => cases h

theorem callMark?_isSome_of_settles {e : Exchange} (h : e.settles = true) :
    e.callMark?.isSome = true := by
  obtain ⟨question, answer⟩ := e
  cases question with
  | report body =>
      cases body with
      | toolEnd => rfl
      | _ => cases h
  | _ => cases h

theorem Silent.vain {ms : List Moment} (h : Silent ms) : vain ms = [] := by
  refine List.map_eq_nil_iff.mpr (List.filter_eq_nil_iff.mpr fun m hm hvain => ?_)
  simp only [Moment.isVain, Bool.and_eq_true] at hvain
  have hmark := callMark?_isSome_of_isRaced hvain.2
  rw [h.callMark?_eq_none hm] at hmark
  cases hmark

theorem Silent.settledInTime {ms : List Moment} (h : Silent ms) : settledInTime ms = 0 := by
  refine List.countP_eq_zero.mpr fun m hm hsettles => ?_
  simp only [Bool.and_eq_true] at hsettles
  have hmark := callMark?_isSome_of_settles hsettles.2
  rw [h.callMark?_eq_none hm] at hmark
  cases hmark

namespace Engine

open Dialogue (Calm Does Under under_bind under_now under_report under_isCancelled under_pure
  keeps_bind)

/-! ## What settles a call -/

/-- What settles a call, seen in the exchanges about it: it is denied by the checks or by the one
who is asked to confirm it, its quota stands against it, its tool fails to return because of the
token, or its tool returns. -/
inductive Ends (setup : Setup) (session : SessionId) (call : ToolCall) :
    List Exchange → CallOutcome → Prop where
  | denied {asked rest : List Exchange} {reason : String} {arguments : Object} :
      (Permission.judge setup.preChecks setup.confirmer session call).Leads asked
        (.done (.deny reason arguments)) →
      Ends setup session call (asked ++ rest) .denied
  | refused {asked rest : List Exchange} {arguments : Object} (limit : UInt32) :
      (Permission.judge setup.preChecks setup.confirmer session call).Leads asked
        (.done (.proceed arguments)) →
      ⟨.report (.quotaExceeded call.name limit), ()⟩ ∈ rest →
      Ends setup session call (asked ++ rest) .quotaExceeded
  | interrupted {asked rest : List Exchange} {arguments : Object} :
      (Permission.judge setup.preChecks setup.confirmer session call).Leads asked
        (.done (.proceed arguments)) →
      ⟨.execute call.name arguments call.id, (none : Option ToolOutcome)⟩ ∈ rest →
      Ends setup session call (asked ++ rest) .cancelled
  | returned {asked rest : List Exchange} {arguments : Object} (answer result : ToolOutcome) :
      (Permission.judge setup.preChecks setup.confirmer session call).Leads asked
        (.done (.proceed arguments)) →
      ⟨.execute call.name arguments call.id, some answer⟩ ∈ rest →
      Ends setup session call (asked ++ rest) (Settlement.ran result).outcome

theorem keeps_runTool_ends (setup : Setup) (call : ToolCall) (arguments : Object) (st : RunState)
    {asked : List Exchange}
    (hjudged : (Permission.judge setup.preChecks setup.confirmer st.session.id call).Leads asked
      (.done (.proceed arguments))) :
    (runTool setup call arguments st).Keeps fun rest r =>
      Ends setup st.session.id call (asked ++ rest) r.1 := by
  refine keeps_bind.mpr fun _ => keeps_bind.mpr (keeps_bind.mpr fun answer => ?_)
  cases answer with
  | none =>
      refine keeps_bind.mpr ((Dialogue.keeps_true _).mono fun _ _ _ => ?_)
      exact .interrupted hjudged (by simp)
  | some answer =>
      refine keeps_bind.mpr ((Dialogue.keeps_true _).mono fun _ result _ => ?_)
      refine keeps_bind.mpr ((Dialogue.keeps_true _).mono fun _ _ _ => ?_)
      exact .returned answer result hjudged (by simp)

/-- A call that is looked at is settled by what is asked about it. -/
theorem keeps_handle_ends (setup : Setup) (call : ToolCall) (st : RunState) :
    (handle setup call st).Keeps fun trace r => Ends setup st.session.id call trace r.1 := by
  refine keeps_bind.mpr (Dialogue.keeps_iff.mpr fun asked verdict hjudged => ?_)
  cases verdict with
  | deny reason arguments =>
      exact keeps_bind.mpr ((Dialogue.keeps_true _).mono fun _ _ _ => .denied hjudged)
  | proceed arguments =>
      dsimp only
      cases st.session.counts.checkWith call.name setup.settings with
      | none => exact keeps_runTool_ends setup call arguments st hjudged
      | some exceeded =>
          refine keeps_bind.mpr fun _ => keeps_bind.mpr
            ((Dialogue.keeps_true _).mono fun _ _ _ => ?_)
          exact .refused exceeded.limit hjudged (by simp)

/-! ## Stages of a run -/

/-- The token is tripped while the model is asked. -/
def TripsInChat (ms : List Moment) : Prop :=
  ∃ m ∈ ms, m.trips = true ∧ ∃ request answer, m.exchange = ⟨.chat request, answer⟩

/-- The record is that of a call in progress: the token is tripped among the moments of the call,
and these settle it. -/
def InProgress (setup : Setup) (session : SessionId) (ms : List Moment) (r : CallRecord) : Prop :=
  ∃ call own, own <:+: ms ∧ r.toolName = call.name ∧
    Ends setup session call (exchanges own) r.outcome ∧ ∃ m ∈ own, m.trips = true

/-- What is left of a run in which the token is tripped: at most one tool is asked for in vain, all
calls behind those that are settled in time are cancelled, save the one in progress. -/
structure Cuts (setup : Setup) (session : SessionId) (ms : List Moment)
    (records : List CallRecord) : Prop where
  vain : vain ms = [] ∨
    ∃ tool arguments call, vain ms = [⟨.execute tool arguments call, (none : Option ToolOutcome)⟩]
  later : ∀ r ∈ records.drop (settledInTime ms + 1), r.outcome = .cancelled
  next : ∀ r, records[settledInTime ms]? = some r →
    InProgress setup session ms r ∨ TripsInChat ms ∧ r.outcome = .cancelled

/-- A part of a run, by the token at its beginning and at its end, with its moments and the records
that it adds. -/
inductive Stage (setup : Setup) (session : SessionId) :
    Bool → Bool → List Moment → List CallRecord → Prop where
  | untripped {ms : List Moment} {records : List CallRecord} : vain ms = [] →
      settledInTime ms = records.length → Stage setup session false false ms records
  | trips {ms : List Moment} {records : List CallRecord} : Cuts setup session ms records →
      Stage setup session false true ms records
  | tripped {ms : List Moment} {records : List CallRecord} : vain ms = [] →
      settledInTime ms = 0 → (∀ r ∈ records, r.outcome = .cancelled) →
      Stage setup session true true ms records

section

variable {setup : Setup} {session : SessionId} {t t' t'' : Bool} {ms ms' : List Moment}
  {records records' : List CallRecord}

/-- A part of a run that has nothing to do with calls. -/
theorem Stage.idle (hvain : vain ms = []) (hsettled : settledInTime ms = 0)
    (hunbroken : Unbroken t ms t') : Stage setup session t t' ms [] := by
  cases t with
  | true =>
      rw [hunbroken.stays rfl]
      exact .tripped hvain hsettled fun r hr => absurd hr List.not_mem_nil
  | false =>
      cases t' with
      | false => exact .untripped hvain hsettled
      | true =>
          refine .trips ⟨.inl hvain, fun r hr => ?_, fun r hr => ?_⟩
          · rw [List.drop_nil] at hr
            exact absurd hr List.not_mem_nil
          · cases hr

theorem Stage.of_silent (h : Silent ms) (hunbroken : Unbroken t ms t') :
    Stage setup session t t' ms [] :=
  .idle h.vain h.settledInTime hunbroken

theorem Stage.looked (setup : Setup) (session : SessionId) (t : Bool) :
    Stage setup session t t [⟨⟨.isCancelled, t⟩, t, t⟩] [] := by
  have hagrees : Exchange.agrees t t ⟨.isCancelled, t⟩ = true := beq_self_eq_true t
  cases t <;> exact .idle rfl rfl (unbroken_same hagrees)

theorem InProgress.append_left {r : CallRecord} (h : InProgress setup session ms' r) :
    InProgress setup session (ms ++ ms') r := by
  obtain ⟨call, own, hown, hends⟩ := h
  exact ⟨call, own, hown.trans List.infix_append_right, hends⟩

theorem InProgress.append_right {r : CallRecord} (h : InProgress setup session ms r) :
    InProgress setup session (ms ++ ms') r := by
  obtain ⟨call, own, hown, hends⟩ := h
  exact ⟨call, own, hown.trans List.infix_append_left, hends⟩

/-- A part of a run that begins before the token is tripped. -/
theorem Stage.cuts (h : Stage setup session false t' ms records) :
    Cuts setup session ms records := by
  cases h with
  | trips hcuts => exact hcuts
  | untripped hvain hsettled =>
      refine ⟨.inl hvain, fun r hr => ?_, fun r hr => ?_⟩
      · rw [hsettled, List.drop_eq_nil_of_le (Nat.le_succ _)] at hr
        exact absurd hr List.not_mem_nil
      · rw [hsettled, List.getElem?_eq_none (Nat.le_refl _)] at hr
        cases hr

theorem Stage.vain_eq_nil (h : Stage setup session true t' ms records) : vain ms = [] := by
  cases h with
  | tripped hvain _ _ => exact hvain

/-- Two stages after one another. If the token is tripped in the first one, it is while a call is
in progress or while the model is asked, or else there are no calls behind. -/
theorem Stage.append (h : Stage setup session t t' ms records)
    (h' : Stage setup session t' t'' ms' records')
    (hopen : t = false → t' = true →
      settledInTime ms < records.length ∨ TripsInChat ms ∨ records' = []) :
    Stage setup session t t'' (ms ++ ms') (records ++ records') := by
  cases h with
  -- whatever happens behind an untripped part is shifted by what was settled there
  | untripped hvain hsettled =>
      cases h' with
      | untripped hvain' hsettled' =>
          exact .untripped (by simp [hvain, hvain']) (by simp [hsettled, hsettled'])
      | trips hcuts =>
          have hshift : settledInTime (ms ++ ms') = records.length + settledInTime ms' := by
            rw [settledInTime_append, hsettled]
          refine .trips ⟨?_, fun r hr => ?_, fun r hr => ?_⟩
          · rw [vain_append, hvain, List.nil_append]
            exact hcuts.vain
          · rw [hshift, Nat.add_assoc, List.drop_length_add_append] at hr
            exact hcuts.later r hr
          · rw [hshift, List.getElem?_append_right (Nat.le_add_right _ _),
              Nat.add_sub_cancel_left] at hr
            refine (hcuts.next r hr).imp InProgress.append_left fun hchat => ?_
            obtain ⟨⟨m, hm, htrips⟩, hcancelled⟩ := hchat
            exact ⟨⟨m, List.mem_append_right _ hm, htrips⟩, hcancelled⟩
  -- the token is tripped from then on, so nothing behind is settled in time
  | trips hcuts =>
      cases h' with
      | tripped hvain' hsettled' hcancelled =>
          have hsame : settledInTime (ms ++ ms') = settledInTime ms := by
            rw [settledInTime_append, hsettled', Nat.add_zero]
          refine .trips ⟨?_, fun r hr => ?_, fun r hr => ?_⟩
          · rw [vain_append, hvain', List.append_nil]
            exact hcuts.vain
          · rw [hsame, List.drop_append, List.mem_append] at hr
            rcases hr with hr | hr
            · exact hcuts.later r hr
            · exact hcancelled r (List.mem_of_mem_drop hr)
          · rw [hsame] at hr
            by_cases hlt : settledInTime ms < records.length
            · rw [List.getElem?_append_left hlt] at hr
              refine (hcuts.next r hr).imp InProgress.append_right fun hchat => ?_
              obtain ⟨⟨m, hm, htrips⟩, hcancelled⟩ := hchat
              exact ⟨⟨m, List.mem_append_left _ hm, htrips⟩, hcancelled⟩
            · -- the first call that is not settled in time is one of the second stage
              rw [List.getElem?_append_right (Nat.le_of_not_lt hlt)] at hr
              have hmem : r ∈ records' := List.mem_of_getElem? hr
              rcases hopen rfl rfl with hlt' | ⟨m, hm, htrips⟩ | hnil
              · exact absurd hlt' hlt
              · exact .inr ⟨⟨m, List.mem_append_left _ hm, htrips⟩, hcancelled r hmem⟩
              · rw [hnil] at hmem
                exact absurd hmem List.not_mem_nil
  | tripped hvain hsettled hcancelled =>
      cases h' with
      | tripped hvain' hsettled' hcancelled' =>
          refine .tripped (by simp [hvain, hvain']) (by simp [hsettled, hsettled']) fun r hr => ?_
          exact (List.mem_append.mp hr).elim (hcancelled r) (hcancelled' r)

/-- A part of a run that has nothing to do with calls goes before a stage in which no call is left
if the token is tripped by then. -/
theorem Stage.after_idle (h : Stage setup session t t' ms [])
    (h' : Stage setup session t' t'' ms' records') (hopen : t = t' ∨ records' = []) :
    Stage setup session t t'' (ms ++ ms') records' :=
  h.append h' fun ht ht' => hopen.elim
    (fun heq => absurd (ht.symm.trans (heq.trans ht')) Bool.false_ne_true)
    fun hnil => .inr (.inr hnil)

/-- A stage with a part behind it that has nothing to do with calls. -/
theorem Stage.then_idle (h : Stage setup session t t' ms records)
    (h' : Stage setup session t' t'' ms' []) :
    Stage setup session t t'' (ms ++ ms') records := by
  have happend := h.append h' fun _ _ => .inr (.inr rfl)
  rwa [List.append_nil] at happend

end

/-! ## Single calls -/

/-- How a call is settled by an engine whose token is then as `t` says. -/
theorem under_settle (t : Bool) (call : ToolCall) (arguments : Object) (s : Settlement)
    (st : RunState) :
    (settle call arguments s st).Under t fun ms t' st' => t' = t ∧ vain ms = [] ∧
      settledInTime ms = (if t then 0 else 1) ∧ st'.forced = st.forced ∧
      ∃ r, st'.session.records = st.session.records ++ [r] ∧ r.outcome = s.outcome := by
  refine under_bind.mpr (under_now fun now => ?_)
  refine under_bind.mpr (under_report (under_pure ?_))
  refine ⟨rfl, ?_, ?_, rfl, _, rfl, rfl⟩
  · cases t <;> rfl
  · cases t <;> rfl

/-- Calls that are left are settled in time, unless the token is tripped and they are cancelled. -/
theorem under_leave (setup : Setup) (session : SessionId) {t : Bool} {s : Settlement}
    (hcancelled : t = true → s.outcome = .cancelled) (calls : List ToolCall) (st : RunState) :
    (leave s calls st).Under t fun ms t' st' => t' = t ∧ ∃ records,
      st'.session.records = st.session.records ++ records ∧ Stage setup session t t ms records := by
  induction calls generalizing st with
  | nil =>
      refine under_pure ⟨rfl, [], (List.append_nil _).symm, .of_silent rfl rfl⟩
  | cons call rest ih =>
      refine (under_settle t call call.arguments s st).bind fun ms t' st' hst' => ?_
      obtain ⟨rfl, hvain, hsettled, -, r, hrecords, houtcome⟩ := hst'
      refine (ih st').mono fun ms' t'' st'' hst'' => ?_
      obtain ⟨rfl, records, hrecords', hstage⟩ := hst''
      have hone : Stage setup session t'' t'' ms [r] := by
        cases t'' with
        | false => exact .untripped hvain hsettled
        | true =>
            refine .tripped hvain hsettled fun r' hr' => ?_
            rw [List.mem_singleton.mp hr', houtcome, hcancelled rfl]
      refine ⟨rfl, r :: records, ?_, hone.append hstage fun ht ht' => ?_⟩
      · rw [hrecords', hrecords, List.append_assoc]
        rfl
      · rw [ht] at ht'
        cases ht'

/-- What is noted of a call that is looked at before the token is tripped. -/
structure Tries (ms : List Moment) (t' : Bool) (outcome : CallOutcome) : Prop where
  vain : vain ms = [] ∨
    ∃ tool arguments call, vain ms = [⟨.execute tool arguments call, (none : Option ToolOutcome)⟩]
  settled : settledInTime ms = if t' then 0 else 1
  goesOn : t' = false → outcome ≠ .cancelled

theorem Tries.append_left {ms ms' : List Moment} {t' : Bool} {outcome : CallOutcome}
    (hsilent : Silent ms) (h : Tries ms' t' outcome) : Tries (ms ++ ms') t' outcome where
  vain := by
    rw [vain_append, hsilent.vain, List.nil_append]
    exact h.vain
  settled := by
    rw [settledInTime_append, hsilent.settledInTime, Nat.zero_add]
    exact h.settled
  goesOn := h.goesOn

theorem under_runTool (setup : Setup) (call : ToolCall) (arguments : Object) (st : RunState)
    (t : Bool) :
    (runTool setup call arguments st).Under t fun ms t' r => Tries ms t' r.1 := by
  refine under_bind.mpr (under_report ?_)
  refine Under.mono (P := fun ms t' r => Tries ms t' r.1) ?_ fun ms t' r h => h.append_left rfl
  refine under_bind.mpr (under_bind.mpr fun answer t' hheeds => ?_)
  obtain ⟨hlate, hnone⟩ := hheeds.execute
  cases answer with
  | none =>
      -- nobody was asked, or the token was tripped while the tool ran
      obtain rfl := hnone rfl
      refine under_bind.mpr ?_
      refine (under_settle true call arguments .interrupted st).mono fun ms t'' st' hst' => ?_
      obtain ⟨rfl, hvain, hsettled, -⟩ := hst'
      refine ⟨?_, ?_, fun ht => (by cases ht)⟩
      · cases t with
        | false => exact .inl (by simp [vain_cons, Moment.isVain, hvain])
        | true =>
            refine .inr ⟨call.name, arguments, call.id, ?_⟩
            simp [vain_cons, Moment.isVain, Ask.isRaced, hvain]
      · simp [settledInTime_cons, Exchange.settles, hsettled]
  | some answer =>
      obtain rfl : t = false := by
        cases t with
        | false => rfl
        | true => cases hlate rfl
      refine under_bind.mpr ?_
      refine ((calm_review overlooks_callMark?.opinions setup _).under t').mono
        fun ms t'' result hresult => ?_
      have hsilent : Silent ms := hresult.1
      refine under_bind.mpr ?_
      refine (under_settle t'' call arguments (.ran result) _).mono fun ms' t''' st' hst' => ?_
      obtain ⟨rfl, hvain, hsettled, -⟩ := hst'
      refine ⟨.inl ?_, ?_, fun _ hcancelled => ?_⟩
      · simp [vain_cons, Moment.isVain, hsilent.vain, hvain]
      · simp [settledInTime_cons, Exchange.settles, hsilent.settledInTime, hsettled]
      · rcases outcome_ran result with houtcome | houtcome <;> rw [houtcome] at hcancelled <;>
          cases hcancelled

theorem under_handle_tries (setup : Setup) (call : ToolCall) (st : RunState) :
    (handle setup call st).Under false fun ms t' r => Tries ms t' r.1 := by
  refine ((calm_judge overlooks_callMark?.opinions setup st.session.id call).under false).bind
    fun ms t' verdict hverdict => ?_
  have hsilent : Silent ms := hverdict.1
  refine Under.mono (P := fun ms t' r => Tries ms t' r.1) ?_ fun ms' t'' r h =>
    h.append_left hsilent
  have hsettle : ∀ (arguments : Object) (s : Settlement), s.outcome ≠ .cancelled →
      ((fun st' => (s.outcome, st')) <$> settle call arguments s st).Under t'
        fun ms t' r => Tries ms t' r.1 := by
    intro arguments s hs
    refine (under_settle t' call arguments s st).map fun ms t'' st' hst' => ?_
    obtain ⟨rfl, hvain, hsettled, -⟩ := hst'
    exact ⟨.inl hvain, hsettled, fun _ => hs⟩
  cases verdict with
  | deny reason arguments => exact hsettle arguments (.denied reason) (fun h => by cases h)
  | proceed arguments =>
      dsimp only
      cases st.session.counts.checkWith call.name setup.settings with
      | none => exact under_runTool setup call arguments st t'
      | some exceeded =>
          refine under_bind.mpr (under_report ?_)
          refine Under.mono (P := fun ms t' r => Tries ms t' r.1) ?_ fun ms' t'' r h => ?_
          · exact hsettle arguments (.overQuota call.name exceeded) (fun h => by cases h)
          · refine ⟨?_, ?_, h.goesOn⟩
            · simpa [vain_cons, Moment.isVain, Ask.isRaced] using h.vain
            · simpa [settledInTime_cons, Exchange.settles] using h.settled

/-- A call that is looked at is settled in time, or the token is tripped meanwhile. -/
theorem under_handle (setup : Setup) (call : ToolCall) (st : RunState) :
    (handle setup call st).Under false fun ms t' r => ∃ record,
      r.2.session.records = st.session.records ++ [record] ∧ r.2.session.id = st.session.id ∧
      Stage setup st.session.id false t' ms [record] ∧
      (t' = true → settledInTime ms = 0) ∧ (t' = false → r.1 ≠ .cancelled) := by
  have htries := (under_handle_tries setup call st).and_keeps (notes_handle setup call st)
  refine (htries.and_keeps (keeps_handle_ends setup call st)).mono fun ms t' r hr => ?_
  obtain ⟨⟨htries, ⟨a, hcall, -, -, houtcome, hsettles, -⟩, -⟩, hends, hunbroken⟩ := hr
  refine ⟨a.record st.step, ?_, ?_, ?_, fun ht => ?_, htries.goesOn⟩
  · rw [hsettles.session]
    rfl
  · rw [hsettles.session]
    rfl
  · cases t' with
    | false =>
        exact .untripped (vain_of_unbroken hunbroken) htries.settled
    | true =>
        refine .trips ⟨htries.vain, fun r hr => ?_, fun r hr => ?_⟩
        · rw [htries.settled] at hr
          exact absurd hr List.not_mem_nil
        · rw [htries.settled] at hr
          obtain rfl := Option.some.inj hr
          refine .inl ⟨call, ms, List.infix_rfl, congrArg ToolCall.name hcall, ?_,
            hunbroken.exists_trips⟩
          rw [houtcome] at hends
          exact hends
  · rw [htries.settled, if_pos ht]

/-! ## The calls of an answer -/

/-- Once the token is tripped all calls are left, and the run is known to be cancelled unless there
are none. -/
theorem under_resolve_tripped (setup : Setup) (session : SessionId) (calls : List ToolCall)
    (st : RunState) :
    (resolve setup calls st).Under true fun ms t' r => t' = true ∧
      (calls ≠ [] → r.1 = true) ∧ ∃ records,
        r.2.session.records = st.session.records ++ records ∧
        Stage setup session true true ms records := by
  cases calls with
  | nil =>
      exact under_pure ⟨rfl, fun h => absurd rfl h, [], (List.append_nil _).symm,
        .of_silent rfl rfl⟩
  | cons call rest =>
      refine under_bind.mpr (under_isCancelled (under_bind.mpr ?_))
      refine (under_leave setup session (s := .leftCancelled) (fun _ => rfl) (call :: rest) st).mono
        fun ms t' st' hst' => ?_
      obtain ⟨rfl, records, hrecords, hstage⟩ := hst'
      refine under_pure ⟨rfl, fun _ => rfl, records, hrecords, ?_⟩
      rw [List.append_nil]
      exact (Stage.looked setup session true).after_idle hstage (.inl rfl)

/-- What the calls of an answer come to that is resolved from before the token is tripped: they are
settled in time, or one of them is in progress when the token is tripped. -/
def Resolved (setup : Setup) (st : RunState) (ms : List Moment) (t' : Bool)
    (r : Bool × RunState) : Prop :=
  (t' = false → r.1 = false) ∧ ∃ records,
    r.2.session.records = st.session.records ++ records ∧
    Stage setup st.session.id false t' ms records ∧
    (t' = true → settledInTime ms < records.length)

section

variable {setup : Setup} {st st' : RunState} {ms ms' : List Moment} {record : CallRecord}

/-- A call is settled in time, and the others are resolved behind it. -/
theorem Resolved.of_inTime {t : Bool} {r : Bool × RunState}
    (hstage : Stage setup st.session.id false false ms [record])
    (hrecord : st'.session.records = st.session.records ++ [record])
    (hid : st'.session.id = st.session.id) (h : Resolved setup st' ms' t r) :
    Resolved setup st ([⟨⟨.isCancelled, false⟩, false, false⟩] ++ (ms ++ ms')) t r := by
  obtain ⟨hcancelled, records, hrecords, hstage', hopen⟩ := h
  rw [hid] at hstage'
  have hboth := hstage.append hstage' fun _ h => by cases h
  refine ⟨hcancelled, record :: records, ?_,
    (Stage.looked setup st.session.id false).after_idle hboth (.inl rfl), fun ht => ?_⟩
  · rw [hrecords, hrecord, List.append_assoc]
    rfl
  · have hone : settledInTime ms = 1 := by
      cases hstage with
      | untripped _ hsettled => exact hsettled
    have hless := hopen ht
    simp [settledInTime_cons, Exchange.settles, hone]
    omega

/-- The token is tripped while a call is in progress, and the others are left behind it. -/
theorem Resolved.of_cut {r : Bool × RunState} {records : List CallRecord}
    (hstage : Stage setup st.session.id false true ms [record]) (hnone : settledInTime ms = 0)
    (hrecord : st'.session.records = st.session.records ++ [record])
    (hrecords : r.2.session.records = st'.session.records ++ records)
    (hleft : Stage setup st.session.id true true ms' records) :
    Resolved setup st ([⟨⟨.isCancelled, false⟩, false, false⟩] ++ (ms ++ ms')) true r := by
  have hboth := hstage.append hleft fun _ _ => .inl (by rw [hnone]; exact Nat.one_pos)
  refine ⟨fun h => (by cases h), record :: records, ?_,
    (Stage.looked setup st.session.id false).after_idle hboth (.inl rfl), fun _ => ?_⟩
  · rw [hrecords, hrecord, List.append_assoc]
    rfl
  · have hlate : settledInTime ms' = 0 := by
      cases hleft with
      | tripped _ hsettled _ => exact hsettled
    simp [settledInTime_cons, Exchange.settles, hnone, hlate]

end

theorem under_resolve (setup : Setup) (calls : List ToolCall) (st : RunState) :
    (resolve setup calls st).Under false (Resolved setup st) := by
  induction calls generalizing st with
  | nil =>
      exact under_pure ⟨fun _ => rfl, [], (List.append_nil _).symm, .of_silent rfl rfl,
        fun h => (by cases h)⟩
  | cons call rest ih =>
      refine under_bind.mpr (under_isCancelled ?_)
      simp only [Bool.false_eq_true, if_false]
      cases hforced : st.forced with
      | true =>
          simp only [if_true]
          refine under_bind.mpr ?_
          refine (under_leave setup st.session.id (s := .leftOverQuota) (fun h => by cases h)
            (call :: rest) st).mono fun ms t' st' hst' => ?_
          obtain ⟨rfl, records, hrecords, hstage⟩ := hst'
          refine under_pure ⟨fun _ => rfl, records, hrecords, ?_, fun h => (by cases h)⟩
          rw [List.append_nil]
          exact (Stage.looked setup st.session.id false).after_idle hstage (.inl rfl)
      | false =>
          simp only [Bool.false_eq_true, if_false]
          refine (under_handle setup call st).bind fun ms t' r hr => ?_
          obtain ⟨outcome, st'⟩ := r
          obtain ⟨record, hrecord, hid, hstage, hopen, hgoesOn⟩ := hr
          cases t' with
          | false =>
              -- the next call is looked at
              have hrest : ∀ st'' : RunState, st''.session = st'.session →
                  (resolve setup rest st'').Under false fun ms' t'' r =>
                    Resolved setup st ([⟨⟨.isCancelled, false⟩, false, false⟩] ++ (ms ++ ms'))
                      t'' r := fun st'' hsame => (ih st'').mono fun ms' t'' r hr =>
                .of_inTime hstage (hsame ▸ hrecord) (hsame ▸ hid) hr
              cases outcome with
              | cancelled => exact absurd rfl (hgoesOn rfl)
              | quotaExceeded => exact hrest { st' with forced := true } rfl
              | succeeded | failed | denied => exact hrest st' rfl
          | true =>
              -- whatever became of this call, the next look at the token finds it tripped
              have hrest : ∀ st'' : RunState, st''.session = st'.session →
                  (resolve setup rest st'').Under true fun ms' t'' r =>
                    Resolved setup st ([⟨⟨.isCancelled, false⟩, false, false⟩] ++ (ms ++ ms'))
                      t'' r := by
                intro st'' hsame
                refine (under_resolve_tripped setup st.session.id rest st'').mono
                  fun ms' t'' r hr => ?_
                obtain ⟨rfl, -, records, hrecords, hleft⟩ := hr
                exact .of_cut hstage (hopen rfl) hrecord (hsame ▸ hrecords) hleft
              cases outcome with
              | cancelled =>
                  refine under_bind.mpr ?_
                  refine (under_leave setup st.session.id (s := .leftCancelled) (fun _ => rfl) rest
                    st').mono fun ms' t'' st'' hst'' => under_pure ?_
                  obtain ⟨rfl, records, hrecords, hleft⟩ := hst''
                  rw [List.append_nil]
                  exact .of_cut hstage (hopen rfl) hrecord hrecords hleft
              | quotaExceeded => exact hrest { st' with forced := true } rfl
              | succeeded | failed | denied => exact hrest st' rfl

end Engine

end AgentSessions
