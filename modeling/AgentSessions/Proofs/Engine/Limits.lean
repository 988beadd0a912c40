import AgentSessions.Proofs.Engine.Lifetime

/-!
# Limits of tools

A run keeps to the quotas of its tools: no tool is started when a limit of it is reached, a call is
refused only then, and once a call was refused the run winds down (`Engine.Lawful`): no tool is
started any more, what is left of the answer is settled unseen, and the model is asked once more at
most, with no tools on offer.
-/

set_option autoImplicit false

namespace AgentSessions

open Json (Object)

/-- Whether the mark is of a call of the tool that came to its end. -/
def CallMark.completes (tool : String) : CallMark → Bool
  | tried tool' _ _ (some _) => tool == tool'
  | _ => false

namespace Engine

/-- How often a tool came to its end. -/
def completions (tool : String) (ms : List CallMark) : Nat :=
  ms.countP (CallMark.completes tool)

/-- What is seen when a call was refused: calls are settled as over their quota or, when the token
is found tripped, as cancelled, and the run is over when the model was asked once more. -/
def WindsDown : (tripped : Bool) → List CallMark → Prop
  | _, [] => True
  | tripped, .looked tripped' :: rest => WindsDown (tripped || tripped') rest
  | tripped, .settled _ _ outcome :: rest =>
      outcome = (if tripped then .cancelled else .quotaExceeded) ∧ WindsDown tripped rest
  | _, .asked tools _ :: rest => tools = [] ∧ rest = []
  | _, .refused _ _ :: _ => False
  | _, .tried _ _ _ _ :: _ => False

/-- What is seen of a run that begins with these counts: a tool is started only if neither of its
limits is reached, and a call is refused only if one of them is. -/
def Lawful (settings : EngineSettings) : QuotaCounts → List CallMark → Prop
  | _, [] => True
  | c, .tried tool _ _ answer :: rest =>
      ¬(settings.quotaFor tool).Reached (c.inTurn tool) (c.inSession tool) ∧
        Lawful settings (if answer.isSome then c.record tool else c) rest
  | c, .refused tool _ :: rest =>
      (settings.quotaFor tool).Reached (c.inTurn tool) (c.inSession tool) ∧ WindsDown false rest
  | c, .looked _ :: rest => Lawful settings c rest
  | c, .asked _ _ :: rest => Lawful settings c rest
  | c, .settled _ _ _ :: rest => Lawful settings c rest

/-! ## When calls are refused -/

/-- A call that may proceed is refused exactly when a limit of its tool is reached. -/
theorem outcome_eq_quotaExceeded_iff {setup : Setup} {call : ToolCall} {st st' : RunState}
    {checks trace : List Exchange} {arguments : Object} {outcome : CallOutcome}
    (hjudge : (Permission.judge setup.preChecks setup.confirmer st.session.id call).Leads checks
      (.done (.proceed arguments)))
    (hhandle : (handle setup call st).Leads (checks ++ trace) (.done (outcome, st'))) :
    outcome = .quotaExceeded ↔ (setup.settings.quotaFor call.name).Reached
      (st.session.counts.inTurn call.name) (st.session.counts.inSession call.name) := by
  -- the judgement is over, so the check of the quota is what is left of the call
  have hrest := hjudge.of_bind hhandle
  dsimp only at hrest
  cases hroom : st.session.counts.checkWith call.name setup.settings with
  | none =>
      rw [hroom] at hrest
      have hruns : (runTool setup call arguments st).Yields fun result =>
          result.1 ≠ .quotaExceeded := by
        refine Dialogue.yields_bind fun _ => Dialogue.yields_bind fun answer => ?_
        cases answer with
        | none => exact Dialogue.yields_bind fun st => CallOutcome.noConfusion
        | some result =>
            refine Dialogue.yields_bind
              fun st (houtcome : (Settlement.ran result).outcome = _) => ?_
            rcases outcome_ran result with hran | hran
            · rw [hran] at houtcome
              cases houtcome
            · rw [hran] at houtcome
              cases houtcome
      have hnot : outcome ≠ .quotaExceeded := Dialogue.keeps_iff.mp hruns _ _ hrest
      exact iff_of_false hnot (QuotaCounts.checkWith_eq_none_iff.mp hroom)
  | some exceeded =>
      rw [hroom] at hrest
      have hrefuses : Dialogue.Yields (fun result => result.1 = .quotaExceeded) (do
          Dialogue.report (.quotaExceeded call.name exceeded.limit)
          let st ← settle call arguments (.overQuota call.name exceeded) st
          pure (CallOutcome.quotaExceeded, st)) :=
        Dialogue.yields_bind fun _ => Dialogue.yields_bind fun st => rfl
      have houtcome : outcome = .quotaExceeded := Dialogue.keeps_iff.mp hrefuses _ _ hrest
      exact iff_of_true houtcome (QuotaCounts.reached_of_checkWith hroom)

/-! ## Runs that are cut short -/

theorem WindsDown.of_append {tripped : Bool} {ms more : List CallMark}
    (h : WindsDown tripped (ms ++ more)) : WindsDown tripped ms := by
  induction ms generalizing tripped with
  | nil => trivial
  | cons mark rest ih =>
      cases mark with
      | looked tripped' => exact ih h
      | settled call tool outcome => exact ⟨h.1, ih h.2⟩
      | asked tools answer => exact ⟨h.1, (List.append_eq_nil_iff.mp h.2).1⟩
      | refused tool limit => exact h
      | tried tool arguments call answer => exact h

theorem Lawful.of_append {settings : EngineSettings} {c : QuotaCounts} {ms more : List CallMark}
    (h : Lawful settings c (ms ++ more)) : Lawful settings c ms := by
  induction ms generalizing c with
  | nil => trivial
  | cons mark rest ih =>
      cases mark with
      | looked tripped => exact ih h
      | settled call tool outcome => exact ih h
      | asked tools answer => exact ih h
      | refused tool limit => exact ⟨h.1, h.2.of_append⟩
      | tried tool arguments call answer => exact ⟨h.1, ih h.2⟩

/-! ## Rounds are lawful -/

/-- What may be seen behind the calls of an answer. -/
def Follows (settings : EngineSettings) (c : QuotaCounts) : Upshot → List CallMark → Prop
  | .goesOn, ms => Lawful settings c ms
  | .forced, ms => WindsDown false ms
  | .cancelled, ms => ms = []

theorem follows_nil (settings : EngineSettings) (c : QuotaCounts) (upshot : Upshot) :
    Follows settings c upshot [] := by
  cases upshot with
  | goesOn => trivial
  | forced => trivial
  | cancelled => rfl

theorem Concludes.windsDown {ms : List CallMark} (h : Concludes [] ms) : WindsDown false ms := by
  cases h with
  | cancelled => trivial
  | exhausted => trivial
  | asked answer => exact ⟨rfl, rfl⟩

theorem windsDown_left {tripped : Bool} {fate : Fate}
    (hleft : fate = .leftCancelled ∨ fate = .leftOverQuota)
    (houtcome : (fate.settlement "").outcome = if tripped then .cancelled else .quotaExceeded)
    {accounts : List Account} (hfates : ∀ a ∈ accounts, a.fate = fate) {closing : List CallMark}
    (hclosing : WindsDown tripped closing) :
    WindsDown tripped (accounts.flatMap Account.marks ++ closing) := by
  induction accounts with
  | nil => exact hclosing
  | cons a rest ih =>
      have hrest := ih fun b hb => hfates b (List.mem_cons_of_mem _ hb)
      rw [List.flatMap_cons, Account.marks_of_left hleft (hfates a List.mem_cons_self)]
      exact ⟨houtcome, hrest⟩

theorem lawful_left {settings : EngineSettings} {c : QuotaCounts} {accounts : List Account}
    (hfates : ∀ a ∈ accounts, a.fate = .leftCancelled) :
    Lawful settings c (accounts.flatMap Account.marks) := by
  induction accounts with
  | nil => trivial
  | cons a rest ih =>
      rw [List.flatMap_cons, Account.marks_of_left (.inl rfl) (hfates a List.mem_cons_self)]
      exact ih fun b hb => hfates b (List.mem_cons_of_mem _ hb)

theorem Remains.windsDown {settings : EngineSettings} {c : QuotaCounts} {accounts : List Account}
    {ms closing : List CallMark} {upshot : Upshot} (h : Remains accounts ms upshot)
    (hclosing : Follows settings c upshot closing) : WindsDown false (ms ++ closing) := by
  cases h with
  | nothing => exact hclosing
  | overQuota hleft => exact windsDown_left (.inr rfl) rfl hleft hclosing
  | cancelled hleft =>
      have hnothing : WindsDown true closing := by
        rw [show closing = [] from hclosing]
        trivial
      exact windsDown_left (.inl rfl) rfl hleft hnothing

theorem Resolves.lawful {setup : Setup} {c : QuotaCounts} {accounts : List Account}
    {ms closing : List CallMark} {upshot : Upshot} (h : Resolves setup c accounts ms upshot)
    (hclosing : Follows setup.settings (accounts.foldl Account.count c) upshot closing) :
    Lawful setup.settings c (ms ++ closing) := by
  induction h with
  | nothing c => exact hclosing
  | cancelled hleft =>
      rw [show closing = [] from hclosing, List.append_nil]
      exact lawful_left hleft
  | @passes c a rest ms upshot hpasses _ ih =>
      have hrest := ih hclosing
      obtain ⟨call, arguments, fate, time⟩ := a
      cases hpasses with
      | denied hfate =>
          cases hfate
          exact hrest
      | ran hfate _ hroom =>
          cases hfate
          rw [Account.count, Fate.count_ran] at hrest
          exact ⟨QuotaCounts.checkWith_eq_none_iff.mp hroom, hrest⟩
  | @interrupted c a rest hfate hroom hleft =>
      obtain ⟨call, arguments, fate, time⟩ := a
      cases hfate
      rw [show closing = [] from hclosing, List.append_nil]
      exact ⟨QuotaCounts.checkWith_eq_none_iff.mp hroom, lawful_left hleft⟩
  | @refused c a rest ms upshot exceeded hfate hexceeded hremains =>
      obtain ⟨call, arguments, fate, time⟩ := a
      cases hfate
      exact ⟨QuotaCounts.reached_of_checkWith hexceeded, rfl, hremains.windsDown hclosing⟩

theorem Unfolds.lawful {setup : Setup} {steps : Nat} {s s' : Session} {rounds : List Round}
    {ms : List CallMark} (h : Unfolds setup steps s rounds ms s') :
    Lawful setup.settings s.counts ms := by
  induction h with
  | ends hconcludes _ =>
      cases hconcludes with
      | cancelled => trivial
      | exhausted => trivial
      | asked answer => trivial
  | breaksOff hresolves _ =>
      have hlawful := hresolves.lawful (follows_nil _ _ _)
      rw [List.append_nil] at hlawful
      exact hlawful
  | forced hresolves hconcludes _ => exact hresolves.lawful hconcludes.windsDown
  | step hresolves htalks _ ih =>
      refine hresolves.lawful ?_
      rw [htalks.counts] at ih
      exact ih

/-- A run that begins with these counts is lawful, also when it does not come to its end. -/
theorem lawful_run {setup : Setup} {session : Session} {prompt : String} {trace : List Exchange}
    {rest : Dialogue Conclusion} (hpath : (run setup session prompt).Leads trace rest) :
    Lawful setup.settings session.counts.startRun (trace.filterMap Exchange.callMark?) := by
  obtain ⟨more, c, hmore⟩ := rest.leads_done
  obtain ⟨history, rounds, now, -, -, hunfolds⟩ :=
    (notes_run setup session prompt).of_leads (hpath.trans hmore)
  have hlawful := hunfolds.lawful
  rw [List.filterMap_append] at hlawful
  exact hlawful.of_append

/-! ## How often tools run -/

theorem completions_append (tool : String) (ms more : List CallMark) :
    completions tool (ms ++ more) = completions tool ms + completions tool more :=
  List.countP_append

theorem completions_tried (tool tool' : String) (arguments : Object) (call : CallId)
    (answer : ToolOutcome) (rest : List CallMark) :
    completions tool (.tried tool' arguments call (some answer) :: rest) =
      completions tool rest + if tool = tool' then 1 else 0 := by
  unfold completions
  rw [List.countP_cons]
  simp only [CallMark.completes, beq_iff_eq]

theorem WindsDown.completions {tripped : Bool} {ms : List CallMark} (h : WindsDown tripped ms)
    (tool : String) : completions tool ms = 0 := by
  induction ms generalizing tripped with
  | nil => rfl
  | cons mark rest ih =>
      cases mark with
      | looked tripped' => exact ih h
      | settled call tool' outcome => exact ih h.2
      | asked tools answer =>
          obtain ⟨-, rfl⟩ := h
          rfl
      | refused tool' limit => exact h.elim
      | tried tool' arguments call answer => exact h.elim

/-- A number that goes up with the calls of a tool, and is below its limit whenever the tool may be
started, stays within the limit. -/
theorem Lawful.completions_le {settings : EngineSettings} {tool : String} {limit : Nat}
    {n : QuotaCounts → Nat}
    (hrecord : ∀ c tool', n (c.record tool') = n c + if tool = tool' then 1 else 0)
    (hroom : ∀ c : QuotaCounts,
      ¬(settings.quotaFor tool).Reached (c.inTurn tool) (c.inSession tool) → n c < limit)
    {c : QuotaCounts} {ms : List CallMark} (h : Lawful settings c ms) (hc : n c ≤ limit) :
    n c + completions tool ms ≤ limit := by
  induction ms generalizing c with
  | nil => exact hc
  | cons mark rest ih =>
      cases mark with
      | looked tripped => exact ih h hc
      | settled call tool' outcome => exact ih h hc
      | asked tools answer => exact ih h hc
      -- after a refusal no tool is started
      | refused tool' limit' =>
          have hnone : completions tool rest = 0 := h.2.completions tool
          have hcons : completions tool (.refused tool' limit' :: rest) =
              completions tool rest := rfl
          rw [hcons, hnone]
          exact hc
      | tried tool' arguments call answer =>
          cases answer with
          | none => exact ih h.2 hc
          | some answer =>
              -- a tool that may be started has room for one more
              have hnext : n (c.record tool') ≤ limit := by
                rw [hrecord]
                by_cases htool : tool = tool'
                · subst htool
                  rw [if_pos rfl]
                  exact hroom c h.1
                · rw [if_neg htool]
                  exact hc
              have hrest : n (c.record tool') + completions tool rest ≤ limit := ih h.2 hnext
              rw [hrecord] at hrest
              rw [completions_tried]
              omega

theorem Lawful.inTurn_le {settings : EngineSettings} {c : QuotaCounts} {ms : List CallMark}
    (h : Lawful settings c ms) {tool : String} {limit : UInt32}
    (hlimit : (settings.quotaFor tool).perTurn = some limit) (hc : c.inTurn tool ≤ limit.toNat) :
    c.inTurn tool + completions tool ms ≤ limit.toNat := by
  refine h.completions_le (n := fun c => c.inTurn tool)
    (fun c tool' => c.inTurn_record tool' tool) (fun c hroom => ?_) hc
  exact Nat.lt_of_not_le fun hle => hroom (.inl ⟨limit, hlimit, hle⟩)

theorem Lawful.inSession_le {settings : EngineSettings} {c : QuotaCounts} {ms : List CallMark}
    (h : Lawful settings c ms) {tool : String} {limit : UInt32}
    (hlimit : (settings.quotaFor tool).perSession = some limit)
    (hc : c.inSession tool ≤ limit.toNat) :
    c.inSession tool + completions tool ms ≤ limit.toNat := by
  refine h.completions_le (n := fun c => c.inSession tool)
    (fun c tool' => c.inSession_record tool' tool) (fun c hroom => ?_) hc
  exact Nat.lt_of_not_le fun hle => hroom (.inr ⟨limit, hlimit, hle⟩)

/-! ## What runs record of it -/

theorem completions_filter_tells (tool : String) (ms : List CallMark) :
    completions tool (ms.filter CallMark.tells) = completions tool ms := by
  have htells : ∀ mark : CallMark,
      (mark.completes tool && mark.tells) = mark.completes tool := by
    intro mark
    cases mark with
    | tried tool' arguments call answer =>
        cases answer <;> simp [CallMark.completes, CallMark.tells]
    | looked | asked | refused | settled => rfl
  unfold completions
  rw [List.countP_filter]
  exact congrArg (List.countP · ms) (funext htells)

/-- A call that came to its end is recorded as executed. -/
theorem Account.completions_marks (a : Account) (step : UInt32) (tool : String) :
    completions tool a.marks = CallRecord.timesRun tool [a.record step] := by
  obtain ⟨call, arguments, fate, time⟩ := a
  cases fate with
  | ran answer result =>
      have hmarks := completions_tried tool call.name arguments call.id answer
        [.settled call.id.text call.name (Settlement.ran result).outcome]
      have hexecuted : (Account.record step ⟨call, arguments, .ran answer result, time⟩).executed =
          true := executed_ran result
      rw [CallRecord.timesRun_executed tool hexecuted]
      exact hmarks.trans (Nat.zero_add _)
  | denied | refused | interrupted | leftCancelled | leftOverQuota => rfl

theorem completions_entries (entries : List (Account × Nat)) (tool : String) :
    completions tool ((entries.map Prod.fst).flatMap Account.marks) =
      CallRecord.timesRun tool (entries.map fun e => e.1.record (.ofNat e.2)) := by
  induction entries with
  | nil => rfl
  | cons e rest ih =>
      rw [List.map_cons, List.flatMap_cons, completions_append, ih,
        e.1.completions_marks (.ofNat e.2)]
      exact (CallRecord.timesRun_append tool [e.1.record (.ofNat e.2)] _).symm

/-- A tool comes to its end as often as the run records it. -/
theorem Unfolds.timesRun {setup : Setup} {steps : Nat} {s s' : Session} {rounds : List Round}
    {ms : List CallMark} (h : Unfolds setup steps s rounds ms s') (tool : String) :
    CallRecord.timesRun tool s'.records =
      CallRecord.timesRun tool s.records + completions tool ms := by
  rw [← completions_filter_tells, h.told, completions_filter_tells, ← map_fst_entries (steps + 1),
    completions_entries, h.adds.records, CallRecord.timesRun_append]

end Engine

end AgentSessions
