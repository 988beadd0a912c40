import AgentSessions.Proofs.Compaction.Split
import AgentSessions.Proofs.Engine.Asides

/-!
# Calls, saves and stops

What matters of a run to the store of its session: which snapshots were saved, which the store
failed to save, and whether the run was stopped, by its token or by its model (`StoreMark`). The
calls of an answer are settled without a save, each by one turn with its result (`Engine.Settled`),
and whether the run was stopped meanwhile is what `resolve` reports.
-/

set_option autoImplicit false

namespace AgentSessions

open Json (Object)

/-- What is noted of an exchange. -/
inductive StoreMark where
  | saved (snapshot : Snapshot)
  | failed (snapshot : Snapshot) (e : StoreError)
  /-- The token was tripped, or the model failed. -/
  | stopped

/-- The snapshot that was to be saved. -/
def StoreMark.snapshot? : StoreMark → Option Snapshot
  | saved snapshot => some snapshot
  | failed snapshot _ => some snapshot
  | stopped => none

/-- The mark of an exchange. -/
def Exchange.storeMark? : Exchange → Option StoreMark
  | ⟨.save snapshot, .ok ()⟩ => some (.saved snapshot)
  | ⟨.save snapshot, .error e⟩ => some (.failed snapshot e)
  | ⟨.isCancelled, true⟩ => some .stopped
  | ⟨.chat _, none⟩ => some .stopped
  | ⟨.chat _, some (.error _)⟩ => some .stopped
  | ⟨.execute _ _ _, none⟩ => some .stopped
  | _ => none

namespace Engine

open Dialogue (does_pure calm_pure calm_put Does Calm)

/-- The marks and the result of a part of a run. -/
abbrev Leaves {α : Type} (P : List StoreMark → α → Prop) (d : Dialogue α) : Prop :=
  d.Does Exchange.storeMark? P

/-- A part of a run in which nothing is saved and which is not stopped. -/
abbrev Quiet {α : Type} (P : α → Prop) (d : Dialogue α) : Prop :=
  d.Calm Exchange.storeMark? P

/-! ## Questions -/

theorem overlooks_storeMark? : Overlooks Exchange.storeMark? := by
  intro question answer haside
  cases question with
  | isCancelled | chat | execute | save | report => cases haside
  | now | consult | summarize | check | confirm | review | warn => rfl

theorem quiet_now : Quiet (fun _ => True) Dialogue.now :=
  calm_now overlooks_storeMark?

theorem quiet_report (body : EventBody) : Quiet (fun _ => True) (Dialogue.report body) :=
  calm_put fun _ => rfl

theorem leaves_isCancelled :
    Leaves (fun ms cancelled => ms = if cancelled then [.stopped] else [])
      Dialogue.isCancelled := by
  intro cancelled
  cases cancelled <;> rfl

theorem leaves_save (snapshot : Snapshot) :
    Leaves
      (fun ms answer => ms = match answer with
        | .ok () => [.saved snapshot]
        | .error e => [.failed snapshot e])
      (Dialogue.put (.save snapshot)) := by
  intro answer
  cases answer <;> rfl

theorem leaves_chat (request : ModelRequest) :
    Leaves
      (fun ms answer => ms = match answer with
        | some (.ok _) => []
        | some (.error _) => [.stopped]
        | none => [.stopped])
      (Dialogue.put (.chat request)) := by
  intro answer
  match answer with
  | none => rfl
  | some (.ok _) => rfl
  | some (.error _) => rfl

theorem leaves_execute (tool : String) (arguments : Object) (call : CallId) :
    Leaves (fun ms answer => ms = if answer.isNone then [.stopped] else [])
      (Dialogue.put (.execute tool arguments call)) := by
  intro answer
  cases answer <;> rfl

/-! ## Calls -/

/-- The session `s'` has the history of `s` with one result for each of the calls behind it, and its
audit trail with more behind it. -/
structure Settled (calls : List ToolCall) (s s' : Session) : Prop where
  turns : ∃ results, s'.turns = s.turns ++ results ∧
    List.Forall₂ ToolCall.AnsweredBy calls results ∧ ∀ turn ∈ results, turn.summary = false
  records : s.records <+: s'.records

theorem settled_nil (s : Session) : Settled [] s s where
  turns := ⟨[], (List.append_nil _).symm, .nil, fun _ h => absurd h List.not_mem_nil⟩
  records := List.prefix_refl _

theorem Settled.cons {call : ToolCall} {rest : List ToolCall} {s s' s'' : Session}
    (h : Settled [call] s s') (h' : Settled rest s' s'') : Settled (call :: rest) s s'' where
  turns := by
    obtain ⟨results, hturns, hanswered, hsummaries⟩ := h.turns
    obtain ⟨results', hturns', hanswered', hsummaries'⟩ := h'.turns
    refine ⟨results ++ results', ?_, List.rel_append hanswered hanswered', ?_⟩
    · rw [hturns', hturns, List.append_assoc]
    · intro turn hturn
      rcases List.mem_append.mp hturn with hturn | hturn
      · exact hsummaries turn hturn
      · exact hsummaries' turn hturn
  records := h.records.trans h'.records

/-- A turn that calls tools and the results of its calls are a block. -/
theorem Settled.extends {calls : List ToolCall} {s s' : Session} {turn : Turn}
    (h : Settled calls (s.addTurn turn) s') (hrole : turn.role ≠ .tool)
    (hasked : turn.asked = calls) (hsummary : turn.summary = false) : s.Extends s' where
  turns := by
    obtain ⟨results, hturns, hanswered, hsummaries⟩ := h.turns
    refine ⟨turn :: (results ++ []), ?_, .block hrole (hasked ▸ hanswered) .nil, ?_⟩
    · rw [hturns, List.append_nil]
      exact List.append_assoc _ _ _
    · intro turn' hturn'
      rw [List.append_nil] at hturn'
      rcases List.mem_cons.mp hturn' with heq | hturn'
      · rw [heq]
        exact hsummary
      · exact hsummaries turn' hturn'
  records := h.records

theorem quiet_settle (call : ToolCall) (arguments : Object) (s : Settlement) (st : RunState) :
    Quiet (fun st' => Settled [call] st.session st'.session) (settle call arguments s st) := by
  refine quiet_now.bind fun now _ => ?_
  refine (quiet_report _).bind fun _ _ => calm_pure ?_
  refine ⟨⟨[.toolResult call.id s.text s.isError now], rfl, ?_, ?_⟩, List.prefix_append _ _⟩
  · exact .cons ⟨rfl, rfl⟩ .nil
  · intro turn hturn
    rw [List.mem_singleton.mp hturn]
    rfl

theorem quiet_leave (s : Settlement) (calls : List ToolCall) (st : RunState) :
    Quiet (fun st' => Settled calls st.session st'.session) (leave s calls st) := by
  induction calls generalizing st with
  | nil => exact calm_pure (settled_nil st.session)
  | cons call rest ih =>
      refine (quiet_settle call call.arguments s st).bind fun st' hst' => ?_
      exact (ih st').mono fun st'' hst'' => hst'.cons hst''

theorem leaves_executeReviewed (setup : Setup) (session : SessionId) (call : ToolCall)
    (arguments : Object) :
    Leaves (fun ms result => ms = if result.isNone then [.stopped] else [])
      (execute setup session call arguments) := by
  refine (leaves_execute call.name arguments call.id).bind fun ms answer hms => ?_
  rw [hms]
  cases answer with
  | none => exact does_pure rfl
  | some result =>
      refine (calm_review overlooks_storeMark?.opinions setup _).then fun reviewed _ => does_pure ?_
      rfl

/-- Whether the run was stopped while a call was settled shows in the outcome of the call. -/
theorem leaves_runTool (setup : Setup) (call : ToolCall) (arguments : Object) (st : RunState) :
    Leaves
      (fun ms result => (ms = if result.1 = .cancelled then [.stopped] else []) ∧
        Settled [call] st.session result.2.session)
      (runTool setup call arguments st) := by
  refine (quiet_report _).then fun _ _ => ?_
  refine (leaves_executeReviewed setup _ call arguments).bind fun ms answer hms => ?_
  rw [hms]
  cases answer with
  | none =>
      refine (quiet_settle call arguments .interrupted st).then fun st' hst' => does_pure ?_
      exact ⟨rfl, hst'⟩
  | some result =>
      refine (quiet_settle call arguments (.ran result) (st.countRun call.name)).then
        fun st' hst' => does_pure ⟨?_, hst'.turns, hst'.records⟩
      -- a tool that came to its end is never recorded as cancelled
      have hran : (Settlement.ran result).outcome ≠ .cancelled := by
        unfold Settlement.ran
        cases result.success <;> exact CallOutcome.noConfusion
      rw [if_neg hran]
      rfl

theorem leaves_handle (setup : Setup) (call : ToolCall) (st : RunState) :
    Leaves
      (fun ms result => (ms = if result.1 = .cancelled then [.stopped] else []) ∧
        Settled [call] st.session result.2.session)
      (handle setup call st) := by
  have hjudge := calm_judge overlooks_storeMark?.opinions setup st.session.id call
  refine hjudge.then fun verdict _ => ?_
  cases verdict with
  | deny reason arguments =>
      refine (quiet_settle call arguments (.denied reason) st).then fun st' hst' => does_pure ?_
      exact ⟨rfl, hst'⟩
  | proceed arguments =>
      dsimp only
      cases st.session.counts.checkWith call.name setup.settings with
      | none => exact leaves_runTool setup call arguments st
      | some exceeded =>
          refine (quiet_report _).then fun _ _ => ?_
          refine (quiet_settle call arguments (.overQuota call.name exceeded) st).then
            fun st' hst' => does_pure ?_
          exact ⟨rfl, hst'⟩

/-- All calls of an answer are settled, in their order, and it is known whether the run was stopped
on the way. -/
theorem leaves_resolve (setup : Setup) (calls : List ToolCall) (st : RunState) :
    Leaves
      (fun ms result => (ms = if result.1 then [.stopped] else []) ∧
        Settled calls st.session result.2.session)
      (resolve setup calls st) := by
  induction calls generalizing st with
  | nil => exact does_pure ⟨rfl, settled_nil st.session⟩
  | cons call rest ih =>
      refine leaves_isCancelled.bind fun ms cancelled hms => ?_
      rw [hms]
      cases cancelled with
      -- cancelled before the call: it and all that follow are left
      | true =>
          refine (quiet_leave .leftCancelled (call :: rest) st).then fun st' hst' => does_pure ?_
          exact ⟨rfl, hst'⟩
      | false =>
          by_cases hforced : st.forced = true
          · simp only [hforced, if_true, Bool.false_eq_true, if_false]
            refine (quiet_leave .leftOverQuota (call :: rest) st).then fun st' hst' => does_pure ?_
            exact ⟨rfl, hst'⟩
          · simp only [hforced, Bool.false_eq_true, if_false]
            refine (leaves_handle setup call st).bind fun ms' result hresult => ?_
            obtain ⟨outcome, st'⟩ := result
            obtain ⟨rfl, hsettled⟩ := hresult
            -- cancelled inside the call, or its quota is used up, or the next call is looked at
            cases outcome with
            | cancelled =>
                refine (quiet_leave .leftCancelled rest st').then fun st'' hst'' => does_pure ?_
                exact ⟨rfl, hsettled.cons hst''⟩
            | quotaExceeded =>
                refine (ih { st' with forced := true }).mono fun ms'' result hresult => ?_
                exact ⟨hresult.1, hsettled.cons hresult.2⟩
            | succeeded | failed | denied =>
                refine (ih st').mono fun ms'' result hresult => ?_
                exact ⟨hresult.1, hsettled.cons hresult.2⟩

end Engine

end AgentSessions
