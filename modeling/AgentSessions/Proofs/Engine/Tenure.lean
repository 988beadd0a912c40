import AgentSessions.Orchestration.Activity
import AgentSessions.Proofs.Engine.Limits
import AgentSessions.Proofs.Engine.Persistence

/-!
# Quotas over the life of a session

Under settings that stay the same a session is run, loaded again from the store and cleared, and
every run saves it (`Engine.Tenure`). Whatever is loaded on the way, a tool comes to its end no more
often than its quota allows, neither in a run nor in all runs since the session was empty: the runs
are in the audit trail, the counts follow the audit trail, and the runs are lawful.
-/

set_option autoImplicit false

namespace AgentSessions.Engine

/-! ## What a run completes -/

/-- How often a tool came to its end in a run. -/
def completed (tool : String) (trace : List Exchange) : Nat :=
  completions tool (trace.filterMap Exchange.callMark?)

theorem completed_append (tool : String) (trace rest : List Exchange) :
    completed tool (trace ++ rest) = completed tool trace + completed tool rest := by
  unfold completed
  rw [List.filterMap_append, completions_append]

/-- A tool comes to its end as often as the run records it. -/
theorem timesRun_eq_completed {setup : Setup} {session session' : Session} {prompt : String}
    {trace : List Exchange} {result : Except RunError RunSummary}
    (hpath : (run setup session prompt).Leads trace (.done (session', result))) (tool : String) :
    CallRecord.timesRun tool session'.records =
      CallRecord.timesRun tool session.records + completed tool trace := by
  obtain ⟨history, rounds, now, -, -, hunfolds⟩ :=
    (notes_run setup session prompt).of_leads hpath
  exact hunfolds.timesRun tool

/-! ## What is stored -/

/-- When every save of a run succeeded, its session is stored. -/
theorem stored_of_allSaved {setup : Setup} {session session' : Session} {prompt : String}
    {trace : List Exchange} {result : Except RunError RunSummary}
    (hpath : (run setup session prompt).Leads trace (.done (session', result)))
    (hsaved : AllSaved trace) (initial : Option Snapshot) :
    stored initial trace = some session'.snapshot := by
  obtain ⟨s, -, -, hgoes⟩ := (leaves_run setup session prompt).of_leads hpath
  have hcloses := hgoes.closes
  generalize hms : trace.filterMap Exchange.storeMark? = ms at hcloses
  have hfailed : ∀ front snapshot e, ms ≠ front ++ [.failed snapshot e] := by
    rintro front snapshot e rfl
    obtain ⟨before, after, rfl, -, -⟩ := exists_split_of_failed hms
    exact hsaved snapshot e (List.mem_append_right _ List.mem_cons_self)
  cases hcloses with
  | finished kept _ => exact stored_of_append hms initial
  | stopped kept _ => exact stored_of_append hms initial
  | stoppedUnsaved kept e _ => exact absurd rfl (hfailed _ _ e)
  | unsaved kept e => exact absurd rfl (hfailed _ _ e)

/-- A session that is cleared is stored so, or the store is left as it was. -/
theorem stored_clear {session : Session} {trace : List Exchange}
    {c : Session × Except RunError Unit} (hpath : (clear session).Leads trace (.done c))
    (initial : Option Snapshot) :
    stored initial trace = some session.clear.snapshot ∨ stored initial trace = initial := by
  have hkeeps : (clear session).Keeps fun trace _ =>
      stored initial trace = some session.clear.snapshot ∨ stored initial trace = initial := by
    intro answer
    cases answer with
    | ok done => exact .inl rfl
    | error e => exact .inr rfl
  exact Dialogue.keeps_iff.mp hkeeps trace c hpath

/-- When no save fails, every save has succeeded. -/
theorem allSaved_play {α : Type} {reply : Nat → (question : Ask) → question.Answer}
    (hsaves : ∀ n snapshot, reply n (.save snapshot) = .ok ()) (n : Nat) (d : Dialogue α) :
    AllSaved (d.play reply n).1 := by
  induction d generalizing n with
  | done a => exact fun _ _ h => absurd h List.not_mem_nil
  | ask question next ih =>
      intro snapshot e h
      rcases List.mem_cons.mp h with h | h
      · obtain ⟨hquestion, hanswer⟩ := Exchange.mk.inj h
        subst hquestion
        rw [hsaves] at hanswer
        cases eq_of_heq hanswer
      · exact ih _ (n + 1) snapshot e h

/-! ## The life of a session under fixed settings -/

/-- A session at some time of its life, what is stored of it, and its runs since it was empty. -/
inductive Tenure (settings : EngineSettings) (id : SessionId) :
    Session → Option Snapshot → List (List Exchange) → Prop where
  | empty : Tenure settings id (.empty id) none []
  | run {session session' : Session} {kept : Option Snapshot} {traces : List (List Exchange)}
      {setup : Setup} {prompt : String} {trace : List Exchange}
      {result : Except RunError RunSummary} : Tenure settings id session kept traces →
      setup.settings = settings →
      (run setup session prompt).Leads trace (.done (session', result)) → AllSaved trace →
      Tenure settings id session' (stored kept trace) (trace :: traces)
  | reload {session : Session} {kept : Option Snapshot} {traces : List (List Exchange)} :
      Tenure settings id session kept traces →
      Tenure settings id (Activity.sessionOf id kept) kept traces
  | clear {session session' : Session} {kept : Option Snapshot} {traces : List (List Exchange)}
      {trace : List Exchange} {result : Except RunError Unit} :
      Tenure settings id session kept traces →
      (clear session).Leads trace (.done (session', result)) →
      Tenure settings id session' (stored kept trace) []

/-- The records of what is stored. -/
def keptRecords (kept : Option Snapshot) : List CallRecord :=
  (kept.map Snapshot.records).getD []

/-- The audit trails that a session can go on with tell of all calls of a tool in its runs, and of
no more of them than the quota of the tool allows. -/
structure Within (settings : EngineSettings) (tool : String) (total : Nat)
    (records : List CallRecord) : Prop where
  told : total ≤ CallRecord.timesRun tool records
  allowed : ∀ limit, (settings.quotaFor tool).perSession = some limit →
    CallRecord.timesRun tool records ≤ limit.toNat

/-- One run more. What it adds is told, and the run is lawful. -/
theorem Within.run {settings : EngineSettings} {tool : String} {total : Nat} {setup : Setup}
    {session session' : Session} {prompt : String} {trace : List Exchange}
    {result : Except RunError RunSummary} (h : Within settings tool total session.records)
    (hcounted : session.counts.inSession tool = CallRecord.timesRun tool session.records)
    (hsettings : setup.settings = settings)
    (hpath : (Engine.run setup session prompt).Leads trace (.done (session', result))) :
    Within settings tool (completed tool trace + total) session'.records := by
  have hran := timesRun_eq_completed hpath tool
  refine ⟨?_, fun limit hlimit => ?_⟩
  · have htold := h.told
    omega
  · have hlawful := lawful_run hpath
    rw [hsettings] at hlawful
    have hbefore : session.counts.startRun.inSession tool ≤ limit.toNat := by
      rw [QuotaCounts.inSession_startRun, hcounted]
      exact h.allowed limit hlimit
    have hle := hlawful.inSession_le hlimit hbefore
    rw [QuotaCounts.inSession_startRun, hcounted] at hle
    rw [hran]
    exact hle

theorem Tenure.within {settings : EngineSettings} {id : SessionId} {session : Session}
    {kept : Option Snapshot} {traces : List (List Exchange)}
    (h : Tenure settings id session kept traces) (tool : String) :
    session.counts.inSession tool = CallRecord.timesRun tool session.records ∧
      Within settings tool (completed tool traces.flatten) session.records ∧
      Within settings tool (completed tool traces.flatten) (keptRecords kept) := by
  induction h with
  | empty =>
      have hempty : Within settings tool 0 [] := ⟨Nat.le_refl 0, fun _ _ => Nat.zero_le _⟩
      exact ⟨rfl, hempty, hempty⟩
  | @run session session' kept traces setup prompt trace result _ hsettings hpath hsaved ih =>
      obtain ⟨hcounted, hwithin, -⟩ := ih
      obtain ⟨records, hrecords, hadvances⟩ := advances_run hpath
      have hafter : Within settings tool (completed tool (trace :: traces).flatten)
          session'.records := by
        rw [List.flatten_cons, completed_append]
        exact hwithin.run hcounted hsettings hpath
      refine ⟨?_, hafter, ?_⟩
      · rw [(hadvances tool).2, QuotaCounts.inSession_startRun, hcounted, hrecords,
          CallRecord.timesRun_append]
      · rw [stored_of_allSaved hpath hsaved]
        exact hafter
  | @reload session kept traces _ ih =>
      obtain ⟨-, -, hkept⟩ := ih
      cases kept with
      | none => exact ⟨rfl, hkept, hkept⟩
      | some snapshot => exact ⟨QuotaCounts.inSession_ofRecords snapshot.records tool, hkept, hkept⟩
  | @clear session session' kept traces trace result _ hpath ih =>
      have hempty : Within settings tool 0 [] := ⟨Nat.le_refl 0, fun _ _ => Nat.zero_le _⟩
      have hclear : session' = session.clear := clear_of_leads hpath
      rw [hclear]
      refine ⟨rfl, hempty, ?_⟩
      -- a save that failed leaves what was stored before
      rcases stored_clear hpath kept with hstored | hstored
      · rw [hstored]
        exact hempty
      · rw [hstored]
        exact ⟨Nat.zero_le _, ih.2.2.allowed⟩

/-- **Quotas are never exceeded.** Over the life of a session under fixed settings a tool comes to
its end no more often than its quota allows in a session, and in any run no more often than it
allows in a run; a call that may proceed is refused exactly when one of the two limits is reached;
and a run in which a call was refused winds down. All calls of a run that is over are recorded, and
settled as they are recorded. -/
theorem quotas_never_exceeded :
    (∀ (settings : EngineSettings) (id : SessionId) (session : Session) (kept : Option Snapshot)
        (traces : List (List Exchange)), Tenure settings id session kept traces →
        ∀ (tool : String) (limit : UInt32), (settings.quotaFor tool).perSession = some limit →
          completed tool traces.flatten ≤ limit.toNat) ∧
      (∀ (setup : Setup) (session : Session) (prompt : String) (trace : List Exchange)
        (rest : Dialogue Conclusion), (run setup session prompt).Leads trace rest →
        Lawful setup.settings session.counts.startRun (trace.filterMap Exchange.callMark?) ∧
          ∀ (tool : String) (limit : UInt32),
            (setup.settings.quotaFor tool).perTurn = some limit →
            completed tool trace ≤ limit.toNat) ∧
      (∀ (setup : Setup) (call : ToolCall) (st st' : RunState) (checks trace : List Exchange)
        (arguments : Json.Object) (outcome : CallOutcome),
        (Permission.judge setup.preChecks setup.confirmer st.session.id call).Leads checks
          (.done (.proceed arguments)) →
        (handle setup call st).Leads (checks ++ trace) (.done (outcome, st')) →
        (outcome = .quotaExceeded ↔ (setup.settings.quotaFor call.name).Reached
          (st.session.counts.inTurn call.name) (st.session.counts.inSession call.name))) ∧
      ∀ (setup : Setup) (session session' : Session) (prompt : String) (trace : List Exchange)
        (result : Except RunError RunSummary),
        (run setup session prompt).Leads trace (.done (session', result)) →
        ∃ history added records now,
          setup.Compacts (session.turns ++ [.user prompt now]) history ∧
          session'.turns = history ++ added ∧ session'.records = session.records ++ records ∧
          (added.flatMap Turn.toolCalls).length = records.length ∧
          (trace.filterMap Exchange.callMark?).filterMap CallMark.settled? =
            List.zipWith (fun call r => (call.id.text, call.name, r.outcome))
              (added.flatMap Turn.toolCalls) records := by
  refine ⟨?_, ?_, ?_, ?_⟩
  · intro settings id session kept traces htenure tool limit hlimit
    obtain ⟨-, hwithin, -⟩ := htenure.within tool
    exact Nat.le_trans hwithin.told (hwithin.allowed limit hlimit)
  · intro setup session prompt trace rest hpath
    have hlawful := lawful_run hpath
    refine ⟨hlawful, fun tool limit hlimit => ?_⟩
    have hle := hlawful.inTurn_le hlimit (Nat.zero_le _)
    rw [QuotaCounts.inTurn_startRun, Nat.zero_add] at hle
    exact hle
  · intro setup call st st' checks trace arguments outcome hjudge hhandle
    exact outcome_eq_quotaExceeded_iff hjudge hhandle
  · intro setup session session' prompt trace result hpath
    obtain ⟨history, added, records, now, hcompacts, hturns, hrecords, haudit⟩ :=
      Proceeds.audit ((notes_run setup session prompt).of_leads hpath)
    obtain ⟨hlength, hsettled⟩ := haudit.executions.settled
    rw [CallMark.settled?_filter_tells] at hsettled
    exact ⟨history, added, records, now, hcompacts, hturns, hrecords, hlength, hsettled⟩

/-- Settings under which a tool may run twice in a run and three times in a session. -/
def scant : EngineSettings :=
  { (default : EngineSettings) with defaultToolQuota := ⟨some 2, some 3⟩ }

/-- An engine with these settings. -/
def scanty : Setup :=
  { Setup.plain with settings := scant }

/-- Every prompt makes the model call three tools. -/
def greedy : Nat → (question : Ask) → question.Answer
  | _, .chat request =>
      if request.turns.getLast?.map Turn.role = some .user then
        some (.ok ⟨"", [look "a", look "b", look "c"], none⟩)
      else some (.ok ⟨"done", [], none⟩)
  | _, .execute _ _ _ => some (.ok "seen")
  | _, question => Dialogue.idleAnswer question

/-- A run that goes beyond what it may do in a run. -/
def overdrawnOnce : List Exchange × Conclusion :=
  (run scanty (.empty ⟨"s"⟩) "go on").play greedy 0

/-- The session as it is loaded from the store after that. -/
def loadedAgain : Session :=
  Activity.sessionOf ⟨"s"⟩ (stored none overdrawnOnce.1)

/-- A run that goes beyond what may be done in the session. -/
def overdrawnTwice : List Exchange × Conclusion :=
  (run scanty loadedAgain "go on").play greedy 0

/-- One more call after that. -/
def refusal : List Exchange × CallOutcome × RunState :=
  (handle scanty (look "d") (.start overdrawnTwice.2.1)).play greedy 0

theorem quotas_never_exceeded_over_two_runs :
    Tenure scant ⟨"s"⟩ overdrawnTwice.2.1 (stored (stored none overdrawnOnce.1) overdrawnTwice.1)
        [overdrawnTwice.1, overdrawnOnce.1] ∧
      (scant.quotaFor "look").perSession = some 3 ∧ (scant.quotaFor "look").perTurn = some 2 ∧
      (run scanty loadedAgain "go on").Leads overdrawnTwice.1 (.done overdrawnTwice.2) ∧
      overdrawnTwice.2.1.records.map CallRecord.outcome =
        [.succeeded, .succeeded, .quotaExceeded, .succeeded, .quotaExceeded, .quotaExceeded] ∧
      completed "look" [overdrawnTwice.1, overdrawnOnce.1].flatten ≤ 3 ∧
      completed "look" overdrawnTwice.1 ≤ 2 ∧
      Lawful scant loadedAgain.counts.startRun
        (overdrawnTwice.1.filterMap Exchange.callMark?) ∧
      refusal.2.1 = .quotaExceeded ∧
      (scant.quotaFor "look").Reached (overdrawnTwice.2.1.counts.inTurn "look")
        (overdrawnTwice.2.1.counts.inSession "look") := by
  have hfirst : (run scanty (.empty ⟨"s"⟩) "go on").Leads overdrawnOnce.1 (.done overdrawnOnce.2) :=
    Dialogue.leads_play greedy 0 _
  have hsecond : (run scanty loadedAgain "go on").Leads overdrawnTwice.1 (.done overdrawnTwice.2) :=
    Dialogue.leads_play greedy 0 _
  have hsaves : ∀ n snapshot, greedy n (.save snapshot) = .ok () := fun _ _ => rfl
  have htenure : Tenure scant ⟨"s"⟩ overdrawnTwice.2.1
      (stored (stored none overdrawnOnce.1) overdrawnTwice.1)
      [overdrawnTwice.1, overdrawnOnce.1] :=
    .run (.reload (.run .empty rfl hfirst (allSaved_play hsaves 0 _))) rfl hsecond
      (allSaved_play hsaves 0 _)
  have hhandle : (handle scanty (look "d") (.start overdrawnTwice.2.1)).Leads ([] ++ refusal.1)
      (.done (refusal.2.1, refusal.2.2)) := Dialogue.leads_play greedy 0 _
  obtain ⟨hsession, hruns, hrefused, -⟩ := quotas_never_exceeded
  obtain ⟨hlawful, hturn⟩ := hruns scanty loadedAgain "go on" _ _ hsecond
  refine ⟨htenure, rfl, rfl, hsecond, rfl, ?_, ?_, hlawful, rfl, ?_⟩
  · exact hsession _ _ _ _ _ htenure "look" 3 rfl
  · exact hturn "look" 2 rfl
  · exact (hrefused scanty (look "d") _ _ [] _ .empty _ (.here _) hhandle).mp rfl

end AgentSessions.Engine
