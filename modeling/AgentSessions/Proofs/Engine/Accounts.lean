import AgentSessions.Proofs.Engine.Asides
import AgentSessions.Proofs.Session.Counts

/-!
# Accounts of calls

What a run does about the calls of an answer, as far as it can be seen from outside: when it looks
at its token, which tools it offers to the model, which calls it refuses, which tools it starts and
what they give, and how each call is settled (`CallMark`). An `Account` tells of one call what
became of it, and everything that the call leaves follows from its account: the turn with its
result, its record, its share in the counts, and its marks.

The calls of an answer are resolved in one of a few ways, which `Resolves` lists with their marks.
-/

set_option autoImplicit false

namespace AgentSessions

open Json (Object)

/-- What is noted of an exchange. -/
inductive CallMark where
  /-- The token was looked at. -/
  | looked (tripped : Bool)
  /-- The model was asked, and these tools were offered to it. -/
  | asked (tools : List ToolSpec) (answer : Option (Except ModelError ModelResponse))
  /-- A call was refused because of this limit of its tool. -/
  | refused (tool : String) (limit : UInt32)
  /-- A tool was started. It came to its end unless the run was cancelled before. -/
  | tried (tool : String) (arguments : Object) (call : CallId) (answer : Option ToolOutcome)
  | settled (call tool : String) (outcome : CallOutcome)

/-- The mark of an exchange. -/
def Exchange.callMark? : Exchange → Option CallMark
  | ⟨.isCancelled, tripped⟩ => some (.looked tripped)
  | ⟨.chat request, answer⟩ => some (.asked request.tools answer)
  | ⟨.report (.quotaExceeded tool limit), _⟩ => some (.refused tool limit)
  | ⟨.execute tool arguments call, answer⟩ => some (.tried tool arguments call answer)
  | ⟨.report (.toolEnd call tool outcome), _⟩ => some (.settled call tool outcome)
  | _ => none

namespace Engine

open Dialogue (does_pure calm_pure calm_put Does Calm)

/-! ## Accounts -/

/-- What becomes of a call. -/
inductive Fate where
  | denied (reason : String)
  | refused (exceeded : QuotaExceeded)
  /-- The run was cancelled while the tool ran. -/
  | interrupted
  /-- The tool came to its end with `answer`, of which the reviews made `result`. -/
  | ran (answer result : ToolOutcome)
  /-- It was not looked at because the run was cancelled. -/
  | leftCancelled
  /-- It was not looked at because a call before it was refused. -/
  | leftOverQuota

/-- How a call with this fate is settled. -/
def Fate.settlement (tool : String) : Fate → Settlement
  | denied reason => .denied reason
  | refused exceeded => .overQuota tool exceeded
  | interrupted => .interrupted
  | ran _ result => .ran result
  | leftCancelled => .leftCancelled
  | leftOverQuota => .leftOverQuota

/-- The counts with a call of the tool that has this fate. -/
def Fate.count (tool : String) (fate : Fate) (c : QuotaCounts) : QuotaCounts :=
  if (fate.settlement tool).outcome.executed then c.record tool else c

theorem outcome_ran_eq_succeeded_iff {result : ToolOutcome} :
    (Settlement.ran result).outcome = .succeeded ↔ result.success = true := by
  unfold Settlement.ran
  cases result.success with
  | true => exact ⟨fun _ => rfl, fun _ => rfl⟩
  | false => exact ⟨fun h => (by cases h), fun h => (by cases h)⟩

theorem outcome_ran (result : ToolOutcome) :
    (Settlement.ran result).outcome = .succeeded ∨ (Settlement.ran result).outcome = .failed := by
  unfold Settlement.ran
  cases result.success with
  | true => exact .inl rfl
  | false => exact .inr rfl

theorem executed_ran (result : ToolOutcome) :
    (Settlement.ran result).outcome.executed = true := by
  rcases outcome_ran result with houtcome | houtcome <;> rw [houtcome] <;> rfl

theorem Fate.count_ran (tool : String) (answer result : ToolOutcome) (c : QuotaCounts) :
    (ran answer result).count tool c = c.record tool :=
  if_pos (executed_ran result)

/-- What became of a call, the arguments that it had at the end, and when that was. -/
structure Account where
  call : ToolCall
  arguments : Object
  fate : Fate
  time : Instant

namespace Account

/-- How the call was settled. -/
def settlement (a : Account) : Settlement :=
  a.fate.settlement a.call.name

/-- The turn with the result of the call. -/
def result (a : Account) : Turn :=
  .toolResult a.call.id a.settlement.text a.settlement.isError a.time

/-- The record of the call. -/
def record (step : UInt32) (a : Account) : CallRecord :=
  ⟨a.call.name, a.arguments, step, a.settlement.outcome, a.time⟩

/-- The counts with the call. -/
def count (c : QuotaCounts) (a : Account) : QuotaCounts :=
  a.fate.count a.call.name c

/-- What is seen before the call is settled. -/
def attempt (a : Account) : List CallMark :=
  match a.fate with
  | .refused exceeded => [.refused a.call.name exceeded.limit]
  | .interrupted => [.tried a.call.name a.arguments a.call.id none]
  | .ran answer _ => [.tried a.call.name a.arguments a.call.id (some answer)]
  | .denied _ | .leftCancelled | .leftOverQuota => []

/-- What is seen of the call. -/
def marks (a : Account) : List CallMark :=
  a.attempt ++ [.settled a.call.id.text a.call.name a.settlement.outcome]

/-- The result is no error just when the call succeeded or was denied. -/
theorem isError_iff (a : Account) :
    a.result.isError = false ↔
      a.settlement.outcome = .succeeded ∨ a.settlement.outcome = .denied := by
  show a.settlement.isError = false ↔ _
  unfold settlement
  cases a.fate with
  | ran answer result =>
      cases hsuccess : result.success <;> simp [Fate.settlement, Settlement.ran, hsuccess]
  | denied => simp [Fate.settlement, Settlement.denied]
  | refused => simp [Fate.settlement, Settlement.overQuota]
  | interrupted => simp [Fate.settlement, Settlement.interrupted]
  | leftCancelled => simp [Fate.settlement, Settlement.leftCancelled]
  | leftOverQuota => simp [Fate.settlement, Settlement.leftOverQuota]

/-- The call was looked at, and nothing came in the way of those behind it. -/
inductive Passes (setup : Setup) (c : QuotaCounts) (a : Account) : Prop where
  | denied {reason : String} : a.fate = .denied reason → Passes setup c a
  | ran {answer result : ToolOutcome} : a.fate = .ran answer result →
      (setup.reviews = 0 → result = answer) → c.checkWith a.call.name setup.settings = none →
      Passes setup c a

/-- The call was looked at. -/
inductive Handled (setup : Setup) (c : QuotaCounts) (a : Account) : Prop where
  | passes : Passes setup c a → Handled setup c a
  | interrupted : a.fate = .interrupted → c.checkWith a.call.name setup.settings = none →
      Handled setup c a
  | refused {exceeded : QuotaExceeded} : a.fate = .refused exceeded →
      c.checkWith a.call.name setup.settings = some exceeded → Handled setup c a

/-- What became of a call that was looked at shows in its outcome. -/
theorem Handled.byOutcome {setup : Setup} {c : QuotaCounts} {a : Account}
    (h : a.Handled setup c) :
    match a.settlement.outcome with
    | .cancelled => a.fate = .interrupted ∧ c.checkWith a.call.name setup.settings = none
    | .quotaExceeded => ∃ exceeded, a.fate = .refused exceeded ∧
        c.checkWith a.call.name setup.settings = some exceeded
    | .succeeded | .failed | .denied => a.Passes setup c := by
  have hsettlement : ∀ {fate : Fate}, a.fate = fate → a.settlement = fate.settlement a.call.name :=
    fun hfate => congrArg (Fate.settlement a.call.name) hfate
  cases h with
  | passes hpasses =>
      cases hpasses with
      | denied hfate =>
          rw [hsettlement hfate]
          exact Passes.denied hfate
      | @ran answer result hfate hreviews hroom =>
          have hran : a.settlement = .ran result := hsettlement hfate
          rw [hran]
          rcases outcome_ran result with houtcome | houtcome
          · rw [houtcome]
            exact Passes.ran hfate hreviews hroom
          · rw [houtcome]
            exact Passes.ran hfate hreviews hroom
  | interrupted hfate hroom =>
      rw [hsettlement hfate]
      exact ⟨hfate, hroom⟩
  | refused hfate hexceeded =>
      rw [hsettlement hfate]
      exact ⟨_, hfate, hexceeded⟩

end Account

/-! ## Sessions after calls -/

/-- The session with what calls leave in it. -/
def enter (s : Session) (step : UInt32) (accounts : List Account) : Session :=
  { s with
    turns := s.turns ++ accounts.map Account.result
    records := s.records ++ accounts.map (Account.record step)
    counts := accounts.foldl Account.count s.counts }

@[simp] theorem enter_nil (s : Session) (step : UInt32) : enter s step [] = s := by
  simp [enter]

theorem enter_enter (s : Session) (step : UInt32) (accounts more : List Account) :
    enter (enter s step accounts) step more = enter s step (accounts ++ more) := by
  simp [enter]

/-- The state `st'` is `st` when these calls are settled. -/
structure Settles (st : RunState) (accounts : List Account) (st' : RunState) : Prop where
  session : st'.session = enter st.session st.step accounts
  steps : st'.steps = st.steps

theorem settles_nil (st : RunState) : Settles st [] st :=
  ⟨(enter_nil _ _).symm, rfl⟩

theorem Settles.counts {st st' : RunState} {a : Account} (h : Settles st [a] st') :
    st'.session.counts = a.count st.session.counts := by
  rw [h.session]
  rfl

theorem Settles.append {st st' st'' : RunState} {accounts more : List Account}
    (h : Settles st accounts st') (h' : Settles st' more st'') :
    Settles st (accounts ++ more) st'' where
  session := by
    have hstep : st'.step = st.step := congrArg UInt32.ofNat h.steps
    rw [h'.session, h.session, hstep, enter_enter]
  steps := h'.steps.trans h.steps

/-! ## Single calls -/

/-- The marks and the result of a part of a run. -/
abbrev Notes {α : Type} (P : List CallMark → α → Prop) (d : Dialogue α) : Prop :=
  d.Does Exchange.callMark? P

theorem overlooks_callMark? : Overlooks Exchange.callMark? := by
  intro question answer haside
  cases question with
  | isCancelled | chat | execute | save | report => cases haside
  | now | consult | summarize | check | confirm | review | warn => rfl

theorem overlooksSaves_callMark? : OverlooksSaves Exchange.callMark? :=
  fun _ _ => rfl

theorem overlooksFrame_callMark? : OverlooksFrame Exchange.callMark? := by
  intro body hframe
  cases body with
  | runStart | compactionComplete | runEnd | runFailed => rfl
  | stepStart | toolStart | toolEnd | quotaExceeded | messageQueued | taskStateChanged =>
      cases hframe

theorem notes_isCancelled :
    Notes (fun ms tripped => ms = [.looked tripped]) Dialogue.isCancelled := by
  intro tripped
  rfl

theorem notes_execute (tool : String) (arguments : Object) (call : CallId) :
    Notes (fun ms answer => ms = [.tried tool arguments call answer])
      (Dialogue.put (.execute tool arguments call)) := by
  intro answer
  rfl

/-- A call is settled in a state that has its share in the counts already. -/
theorem notes_settle (st : RunState) (call : ToolCall) (arguments : Object) (fate : Fate)
    {st' : RunState}
    (hsession : st'.session =
      { st.session with counts := fate.count call.name st.session.counts })
    (hsteps : st'.steps = st.steps) :
    Notes
      (fun ms st'' => ∃ time,
        ms = [.settled call.id.text call.name (fate.settlement call.name).outcome] ∧
        Settles st [⟨call, arguments, fate, time⟩] st'' ∧ st''.forced = st'.forced)
      (settle call arguments (fate.settlement call.name) st') := by
  refine (calm_now overlooks_callMark?).then fun now _ => ?_
  intro answer
  refine ⟨now, rfl, ⟨?_, hsteps⟩, rfl⟩
  have hstep : st'.step = st.step := congrArg UInt32.ofNat hsteps
  show ((st'.session.addTurn _).addRecord _) = _
  rw [hsession, hstep]
  rfl

/-- Of a call that is not looked at nothing is seen but how it is settled. -/
theorem Account.marks_of_left {fate : Fate} (hleft : fate = .leftCancelled ∨ fate = .leftOverQuota)
    {a : Account} (h : a.fate = fate) :
    a.marks = [.settled a.call.id.text a.call.name (fate.settlement "").outcome] := by
  obtain ⟨call, arguments, fate', time⟩ := a
  cases h
  rcases hleft with rfl | rfl <;> rfl

/-- Calls that are not looked at any more are settled with what the model asked for. -/
theorem notes_leave {fate : Fate} (hleft : fate = .leftCancelled ∨ fate = .leftOverQuota)
    (calls : List ToolCall) (st : RunState) :
    Notes
      (fun ms st' => ∃ accounts : List Account, accounts.map Account.call = calls ∧
        (∀ a ∈ accounts, a.fate = fate) ∧ ms = accounts.flatMap Account.marks ∧
        Settles st accounts st' ∧ st'.forced = st.forced)
      (leave (fate.settlement "") calls st) := by
  -- what is left is settled without its name and counts nowhere
  have hsettlement : ∀ tool, fate.settlement tool = fate.settlement "" := by
    intro tool
    rcases hleft with rfl | rfl <;> rfl
  have hcount : ∀ tool c, fate.count tool c = c := by
    intro tool c
    rcases hleft with rfl | rfl <;> rfl
  induction calls generalizing st with
  | nil =>
      refine does_pure ⟨[], rfl, fun a ha => ?_, rfl, settles_nil st, rfl⟩
      exact absurd ha List.not_mem_nil
  | cons call rest ih =>
      have hsession : st.session =
          { st.session with counts := fate.count call.name st.session.counts } := by
        rw [hcount]
      have hsettle := notes_settle st call call.arguments fate hsession rfl
      rw [hsettlement] at hsettle
      refine hsettle.bind fun ms st' hst' => (ih st').mono fun ms' st'' hst'' => ?_
      obtain ⟨time, rfl, hone, hforced⟩ := hst'
      obtain ⟨accounts, hcalls, hfates, rfl, hmore, hforced'⟩ := hst''
      refine ⟨⟨call, call.arguments, fate, time⟩ :: accounts, ?_, ?_, ?_, hone.append hmore, ?_⟩
      · rw [List.map_cons, hcalls]
      · intro a ha
        rcases List.mem_cons.mp ha with rfl | ha
        · rfl
        · exact hfates a ha
      · rw [List.flatMap_cons, Account.marks_of_left hleft rfl]
      · rw [hforced', hforced]

theorem notes_executeReviewed (setup : Setup) (session : SessionId) (call : ToolCall)
    (arguments : Object) :
    Notes
      (fun ms result => (ms = [.tried call.name arguments call.id none] ∧ result = none) ∨
        ∃ answer reviewed, ms = [.tried call.name arguments call.id (some answer)] ∧
          result = some reviewed ∧ (setup.reviews = 0 → reviewed = answer))
      (execute setup session call arguments) := by
  refine (notes_execute call.name arguments call.id).bind fun ms answer hms => ?_
  rw [hms]
  cases answer with
  | none => exact does_pure (.inl ⟨rfl, rfl⟩)
  | some answer =>
      have hreview := calm_review overlooks_callMark?.opinions setup
        ⟨session, call.name, arguments, call.id, answer⟩
      refine hreview.then fun reviewed hreviewed => does_pure ?_
      exact .inr ⟨answer, reviewed, rfl, rfl, hreviewed⟩

/-- What a call that is looked at comes to. -/
def Handles (setup : Setup) (call : ToolCall) (st : RunState) (ms : List CallMark)
    (result : CallOutcome × RunState) : Prop :=
  ∃ a : Account, a.call = call ∧ a.Handled setup st.session.counts ∧ ms = a.marks ∧
    result.1 = a.settlement.outcome ∧ Settles st [a] result.2 ∧ result.2.forced = st.forced

theorem notes_runTool (setup : Setup) (call : ToolCall) (arguments : Object) (st : RunState)
    (hroom : st.session.counts.checkWith call.name setup.settings = none) :
    Notes (Handles setup call st) (runTool setup call arguments st) := by
  refine (calm_put fun _ => rfl).then fun _ _ => ?_
  refine (notes_executeReviewed setup _ call arguments).bind fun ms answer hms => ?_
  rcases hms with ⟨rfl, rfl⟩ | ⟨answer, reviewed, rfl, rfl, hreviews⟩
  · refine (notes_settle st call arguments .interrupted rfl rfl).bind fun ms st' hst' => ?_
    obtain ⟨time, rfl, hsettles, hforced⟩ := hst'
    exact does_pure
      ⟨⟨call, arguments, .interrupted, time⟩, rfl, .interrupted rfl hroom, rfl, rfl, hsettles,
        hforced⟩
  · have hcounts : (st.countRun call.name).session =
        { st.session with
          counts := (Fate.ran answer reviewed).count call.name st.session.counts } := by
      rw [Fate.count_ran]
      rfl
    refine (notes_settle st call arguments (.ran answer reviewed) hcounts rfl).bind
      fun ms st' hst' => ?_
    obtain ⟨time, rfl, hsettles, hforced⟩ := hst'
    exact does_pure
      ⟨⟨call, arguments, .ran answer reviewed, time⟩, rfl, .passes (.ran rfl hreviews hroom), rfl,
        rfl, hsettles, hforced⟩

theorem notes_handle (setup : Setup) (call : ToolCall) (st : RunState) :
    Notes (Handles setup call st) (handle setup call st) := by
  refine (calm_judge overlooks_callMark?.opinions setup st.session.id call).then fun verdict _ => ?_
  cases verdict with
  | deny reason arguments =>
      refine (notes_settle st call arguments (.denied reason) rfl rfl).bind
        fun ms st' hst' => ?_
      obtain ⟨time, rfl, hsettles, hforced⟩ := hst'
      exact does_pure
        ⟨⟨call, arguments, .denied reason, time⟩, rfl, .passes (.denied rfl), rfl, rfl, hsettles,
          hforced⟩
  | proceed arguments =>
      dsimp only
      cases hroom : st.session.counts.checkWith call.name setup.settings with
      | none => exact notes_runTool setup call arguments st hroom
      | some exceeded =>
          have hrefused : Notes (fun ms (_ : Unit) => ms = [.refused call.name exceeded.limit])
              (Dialogue.report (.quotaExceeded call.name exceeded.limit)) := fun _ => rfl
          refine hrefused.bind fun ms _ hms => ?_
          rw [hms]
          refine (notes_settle st call arguments (.refused exceeded) rfl rfl).bind
            fun ms st' hst' => ?_
          obtain ⟨time, rfl, hsettles, hforced⟩ := hst'
          exact does_pure
            ⟨⟨call, arguments, .refused exceeded, time⟩, rfl, .refused rfl hroom, rfl, rfl,
              hsettles, hforced⟩

/-! ## The calls of an answer -/

/-- How the calls of an answer are left. -/
inductive Upshot where
  /-- The run goes on. -/
  | goesOn
  /-- A call was refused, and the model has to answer without tools. -/
  | forced
  | cancelled
  deriving DecidableEq

/-- How calls are left, from what `resolve` reports. -/
def Upshot.ofResult (result : Bool × RunState) : Upshot :=
  if result.1 then .cancelled else if result.2.forced then .forced else .goesOn

/-- What becomes of the calls behind one that was refused. -/
inductive Remains : List Account → List CallMark → Upshot → Prop where
  | nothing : Remains [] [] .forced
  | overQuota {rest : List Account} : (∀ a ∈ rest, a.fate = .leftOverQuota) →
      Remains rest (.looked false :: rest.flatMap Account.marks) .forced
  | cancelled {rest : List Account} : (∀ a ∈ rest, a.fate = .leftCancelled) →
      Remains rest (.looked true :: rest.flatMap Account.marks) .cancelled

/-- What becomes of the calls of an answer when tools have run as often as `c` says. -/
inductive Resolves (setup : Setup) :
    QuotaCounts → List Account → List CallMark → Upshot → Prop where
  | nothing (c : QuotaCounts) : Resolves setup c [] [] .goesOn
  /-- The token was found tripped. -/
  | cancelled {c : QuotaCounts} {rest : List Account} : (∀ a ∈ rest, a.fate = .leftCancelled) →
      Resolves setup c rest (.looked true :: rest.flatMap Account.marks) .cancelled
  | passes {c : QuotaCounts} {a : Account} {rest : List Account} {ms : List CallMark}
      {upshot : Upshot} : a.Passes setup c → Resolves setup (a.count c) rest ms upshot →
      Resolves setup c (a :: rest) (.looked false :: (a.marks ++ ms)) upshot
  | interrupted {c : QuotaCounts} {a : Account} {rest : List Account} : a.fate = .interrupted →
      c.checkWith a.call.name setup.settings = none → (∀ b ∈ rest, b.fate = .leftCancelled) →
      Resolves setup c (a :: rest)
        (.looked false :: (a.marks ++ rest.flatMap Account.marks)) .cancelled
  | refused {c : QuotaCounts} {a : Account} {rest : List Account} {ms : List CallMark}
      {upshot : Upshot} {exceeded : QuotaExceeded} : a.fate = .refused exceeded →
      c.checkWith a.call.name setup.settings = some exceeded → Remains rest ms upshot →
      Resolves setup c (a :: rest) (.looked false :: (a.marks ++ ms)) upshot

/-- The token is looked at, and otherwise there is nothing but the marks of the calls. -/
theorem Remains.of_mem {accounts : List Account} {ms : List CallMark} {upshot : Upshot}
    (h : Remains accounts ms upshot) {mark : CallMark} (hmark : mark ∈ ms) :
    (∃ tripped, mark = .looked tripped) ∨ mark ∈ accounts.flatMap Account.marks := by
  cases h with
  | nothing => cases hmark
  | overQuota _ => exact (List.mem_cons.mp hmark).imp_left fun h => ⟨false, h⟩
  | cancelled _ => exact (List.mem_cons.mp hmark).imp_left fun h => ⟨true, h⟩

theorem Resolves.of_mem {setup : Setup} {c : QuotaCounts} {accounts : List Account}
    {ms : List CallMark} {upshot : Upshot} (h : Resolves setup c accounts ms upshot)
    {mark : CallMark} (hmark : mark ∈ ms) :
    (∃ tripped, mark = .looked tripped) ∨ mark ∈ accounts.flatMap Account.marks := by
  induction h with
  | nothing c => cases hmark
  | cancelled _ => exact (List.mem_cons.mp hmark).imp_left fun h => ⟨true, h⟩
  | interrupted _ _ _ => exact (List.mem_cons.mp hmark).imp_left fun h => ⟨false, h⟩
  | passes _ _ ih =>
      rcases List.mem_cons.mp hmark with rfl | hmark
      · exact .inl ⟨false, rfl⟩
      · rw [List.flatMap_cons, List.mem_append]
        rcases List.mem_append.mp hmark with hmark | hmark
        · exact .inr (.inl hmark)
        · exact (ih hmark).imp_right .inr
  | refused _ _ hremains =>
      rcases List.mem_cons.mp hmark with rfl | hmark
      · exact .inl ⟨false, rfl⟩
      · rw [List.flatMap_cons, List.mem_append]
        rcases List.mem_append.mp hmark with hmark | hmark
        · exact .inr (.inl hmark)
        · exact (hremains.of_mem hmark).imp_right .inr

theorem notes_resolve_forced (setup : Setup) (calls : List ToolCall) (st : RunState)
    (hforced : st.forced = true) :
    Notes
      (fun ms result => ∃ accounts : List Account, accounts.map Account.call = calls ∧
        Remains accounts ms (.ofResult result) ∧ Settles st accounts result.2)
      (resolve setup calls st) := by
  cases calls with
  | nil =>
      refine does_pure ⟨[], rfl, ?_, settles_nil st⟩
      simp only [Upshot.ofResult, hforced]
      exact .nothing
  | cons call rest =>
      refine notes_isCancelled.bind fun ms tripped hms => ?_
      rw [hms]
      cases tripped with
      | true =>
          refine (notes_leave (.inl rfl) (call :: rest) st).bind fun ms st' hst' => does_pure ?_
          obtain ⟨accounts, hcalls, hfates, rfl, hsettles, -⟩ := hst'
          refine ⟨accounts, hcalls, ?_, hsettles⟩
          rw [List.append_nil]
          exact .cancelled hfates
      | false =>
          simp only [Bool.false_eq_true, if_false, hforced, if_true]
          refine (notes_leave (.inr rfl) (call :: rest) st).bind fun ms st' hst' => does_pure ?_
          obtain ⟨accounts, hcalls, hfates, rfl, hsettles, hforced'⟩ := hst'
          refine ⟨accounts, hcalls, ?_, hsettles⟩
          rw [List.append_nil]
          simp only [Upshot.ofResult, hforced', hforced]
          exact .overQuota hfates

/-- The calls of an answer are all accounted for, in their order. -/
theorem notes_resolve (setup : Setup) (calls : List ToolCall) (st : RunState)
    (hforced : st.forced = false) :
    Notes
      (fun ms result => ∃ accounts : List Account, accounts.map Account.call = calls ∧
        Resolves setup st.session.counts accounts ms (.ofResult result) ∧
        Settles st accounts result.2)
      (resolve setup calls st) := by
  induction calls generalizing st with
  | nil =>
      refine does_pure ⟨[], rfl, ?_, settles_nil st⟩
      simp only [Upshot.ofResult, hforced]
      exact .nothing _
  | cons call rest ih =>
      refine notes_isCancelled.bind fun ms tripped hms => ?_
      rw [hms]
      cases tripped with
      | true =>
          refine (notes_leave (.inl rfl) (call :: rest) st).bind fun ms st' hst' => does_pure ?_
          obtain ⟨accounts, hcalls, hfates, rfl, hsettles, -⟩ := hst'
          refine ⟨accounts, hcalls, ?_, hsettles⟩
          rw [List.append_nil]
          exact .cancelled hfates
      | false =>
          simp only [Bool.false_eq_true, if_false, hforced]
          refine (notes_handle setup call st).bind fun ms' result hresult => ?_
          obtain ⟨outcome, st'⟩ := result
          obtain ⟨a, rfl, hhandled, rfl, houtcome, hsettles, hforced'⟩ := hresult
          have hcase := hhandled.byOutcome
          rw [← houtcome] at hcase
          -- what became of the call decides about those behind it
          cases outcome with
          | cancelled =>
              obtain ⟨hfate, hroom⟩ := hcase
              refine (notes_leave (.inl rfl) rest st').bind fun ms st'' hst'' => does_pure ?_
              obtain ⟨accounts, hcalls, hfates, rfl, hrest, -⟩ := hst''
              refine ⟨a :: accounts, congrArg _ hcalls, ?_, hsettles.append hrest⟩
              rw [List.append_nil]
              exact .interrupted hfate hroom hfates
          | quotaExceeded =>
              obtain ⟨exceeded, hfate, hexceeded⟩ := hcase
              refine (notes_resolve_forced setup rest { st' with forced := true } rfl).mono
                fun ms result hresult => ?_
              obtain ⟨accounts, hcalls, hremains, hrest⟩ := hresult
              exact ⟨a :: accounts, congrArg _ hcalls, .refused hfate hexceeded hremains,
                hsettles.append ⟨hrest.session, hrest.steps⟩⟩
          | succeeded | failed | denied =>
              refine (ih st' (hforced'.trans hforced)).mono fun ms result hresult => ?_
              obtain ⟨accounts, hcalls, hresolves, hrest⟩ := hresult
              rw [hsettles.counts] at hresolves
              exact ⟨a :: accounts, congrArg _ hcalls, .passes hcase hresolves,
                hsettles.append hrest⟩

end Engine

end AgentSessions
