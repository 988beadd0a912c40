import AgentSessions.Proofs.Engine.Audit
import AgentSessions.Tool.Registry

/-!
# Counts over the life of a session

A session is run again and again, its history is compacted, it is cleared, and it is loaded again
from what was saved of it (`Engine.Lived`). All the while its counts say of every tool what can be
read off the audit trail: how often it ran in the session, and how often in the last run.
-/

set_option autoImplicit false

namespace AgentSessions

open Json (Object)

namespace Engine

/-! ## Counts after a run -/

theorem Account.advances (c : QuotaCounts) (a : Account) (step : UInt32) :
    c.Advances [a.record step] (a.count c) := by
  have hcount : a.count c = if (a.record step).executed then c.record a.call.name else c := rfl
  rw [hcount]
  cases hexecuted : (a.record step).executed with
  | true => exact QuotaCounts.advances_record c hexecuted
  | false => exact QuotaCounts.advances_same c hexecuted

/-- What calls add to the counts is what their records say. -/
theorem advances_entries (entries : List (Account × Nat)) (c : QuotaCounts) :
    c.Advances (entries.map fun e => e.1.record (.ofNat e.2))
      ((entries.map Prod.fst).foldl Account.count c) := by
  induction entries generalizing c with
  | nil => exact QuotaCounts.advances_nil c
  | cons e rest ih => exact (e.1.advances c (.ofNat e.2)).append (ih (e.1.count c))

theorem Unfolds.advances {setup : Setup} {steps : Nat} {s s' : Session} {rounds : List Round}
    {ms : List CallMark} (h : Unfolds setup steps s rounds ms s') :
    ∃ records, s'.records = s.records ++ records ∧ s.counts.Advances records s'.counts := by
  refine ⟨_, h.adds.records, ?_⟩
  rw [h.adds.counts, ← map_fst_entries (steps + 1)]
  exact advances_entries _ _

/-- A run counts the calls that it records, in the run from nothing. -/
theorem advances_run {setup : Setup} {session session' : Session} {prompt : String}
    {trace : List Exchange} {result : Except RunError RunSummary}
    (hpath : (run setup session prompt).Leads trace (.done (session', result))) :
    ∃ records, session'.records = session.records ++ records ∧
      session.counts.startRun.Advances records session'.counts := by
  obtain ⟨history, rounds, now, -, -, hunfolds⟩ :=
    (notes_run setup session prompt).of_leads hpath
  exact hunfolds.advances

/-! ## The life of a session -/

/-- A session at some time of its life, and what its latest run since it was loaded or cleared added
to the audit trail. -/
inductive Lived : Session → List CallRecord → Prop where
  | empty (id : SessionId) : Lived (.empty id) []
  | run {session session' : Session} {latest : List CallRecord} {setup : Setup} {prompt : String}
      {trace : List Exchange} {result : Except RunError RunSummary} : Lived session latest →
      (run setup session prompt).Leads trace (.done (session', result)) →
      Lived session' (session'.records.drop session.records.length)
  | compact {session session' : Session} {latest : List CallRecord} {setup : Setup}
      {trace : List Exchange} : Lived session latest →
      (compactIfDue setup session).Leads trace (.done session') → Lived session' latest
  | clear {session session' : Session} {latest : List CallRecord} {trace : List Exchange}
      {result : Except RunError Unit} : Lived session latest →
      (clear session).Leads trace (.done (session', result)) → Lived session' []
  | reload {session : Session} {latest : List CallRecord} (id : SessionId) (snapshot : Snapshot) :
      Lived session latest → Lived (.ofSnapshot id snapshot) []

/-- A session is empty when it was cleared, also if it could not be saved. -/
theorem clear_of_leads {session : Session} {trace : List Exchange}
    {c : Session × Except RunError Unit} (hpath : (clear session).Leads trace (.done c)) :
    c.1 = session.clear := by
  have hyields : (clear session).Keeps fun _ c => c.1 = session.clear := by
    intro answer
    cases answer with
    | ok done => rfl
    | error e => rfl
  exact Dialogue.keeps_iff.mp hyields trace c hpath

/-- The counts of a session agree with its audit trail. -/
structure Session.Counted (session : Session) (latest : List CallRecord) : Prop where
  recent : latest <:+ session.records
  inSession : ∀ tool, session.counts.inSession tool = CallRecord.timesRun tool session.records
  inTurn : ∀ tool, session.counts.inTurn tool = CallRecord.timesRun tool latest

theorem counted_empty (id : SessionId) : Session.Counted (.empty id) [] :=
  ⟨List.suffix_refl [], fun _ => rfl, fun _ => rfl⟩

theorem counted_run {setup : Setup} {session session' : Session} {latest : List CallRecord}
    {prompt : String} {trace : List Exchange} {result : Except RunError RunSummary}
    (h : Session.Counted session latest)
    (hpath : (run setup session prompt).Leads trace (.done (session', result))) :
    Session.Counted session' (session'.records.drop session.records.length) := by
  obtain ⟨records, hrecords, hadvances⟩ := advances_run hpath
  have hadded : session'.records.drop session.records.length = records := by
    rw [hrecords, List.drop_left]
  rw [hadded]
  refine ⟨⟨session.records, hrecords.symm⟩, fun tool => ?_, fun tool => ?_⟩
  · rw [(hadvances tool).2, QuotaCounts.inSession_startRun, h.inSession, hrecords,
      CallRecord.timesRun_append]
  · rw [(hadvances tool).1, QuotaCounts.inTurn_startRun, Nat.zero_add]

theorem Lived.counted {session : Session} {latest : List CallRecord} (h : Lived session latest) :
    Session.Counted session latest := by
  induction h with
  | empty id => exact counted_empty id
  | run _ hpath ih => exact counted_run ih hpath
  | @compact session session' latest setup trace _ hpath ih =>
      have hcompact := calm_compactIfDue overlooks_callMark? (fun _ => rfl) setup session
      have hsame := (Dialogue.Does.of_leads hcompact hpath).2.1
      rw [hsame]
      exact ⟨ih.recent, ih.inSession, ih.inTurn⟩
  | @clear session session' latest trace result _ hpath _ =>
      have hclear : session' = session.clear := clear_of_leads hpath
      rw [hclear]
      exact counted_empty session.id
  | reload id snapshot _ _ =>
      exact ⟨List.nil_suffix, QuotaCounts.inSession_ofRecords snapshot.records, fun _ => rfl⟩

/-- **The audit trail is complete, and the counts can be rebuilt from it.** The records that a run
adds are those of its calls and agree with its results and with what ran; the call of a tool that is
not there fails. And all through the life of a session its counts, and those of a session that is
loaded from its snapshot, are read off its audit trail; with fewer than 2³² records they fit into 32
bits. -/
theorem counts_follow_complete_trail :
    (∀ (setup : Setup) (session session' : Session) (prompt : String) (trace : List Exchange)
        (result : Except RunError RunSummary),
        (run setup session prompt).Leads trace (.done (session', result)) →
        ∃ history added records now,
          setup.Compacts (session.turns ++ [.user prompt now]) history ∧
          session'.turns = history ++ added ∧ session'.records = session.records ++ records ∧
          Audit setup trace added records) ∧
      (∀ (m : Type → Type) [Monad m] (tools : ToolRegistry m) (name : String) (arguments : Object)
        (context : ToolContext), Dict.get? tools name = none →
        tools.execute name arguments context = pure (ToolRegistry.notFound name) ∧
          (ToolRegistry.notFound name).success = false) ∧
      ∀ (session : Session) (latest : List CallRecord), Lived session latest → ∀ tool : String,
        session.counts.inSession tool = CallRecord.timesRun tool session.records ∧
          (∀ id, (Session.ofSnapshot id session.snapshot).counts.inSession tool =
            session.counts.inSession tool) ∧
          session.counts.inTurn tool = CallRecord.timesRun tool latest ∧
          (session.records.length < UInt32.size →
            session.counts.inSession tool < UInt32.size ∧
              session.counts.inTurn tool < UInt32.size) := by
  refine ⟨?_, ?_, ?_⟩
  · intro setup session session' prompt trace result hpath
    exact Proceeds.audit ((notes_run setup session prompt).of_leads hpath)
  · intro m _ tools name arguments context hmissing
    refine ⟨?_, rfl⟩
    unfold ToolRegistry.execute
    rw [hmissing]
  · intro session latest hlived tool
    have hcounted := hlived.counted
    -- a tool ran no more often than there are records
    have hsession : session.counts.inSession tool ≤ session.records.length := by
      rw [hcounted.inSession]
      exact List.countP_le_length
    have hturn : session.counts.inTurn tool ≤ session.records.length := by
      rw [hcounted.inTurn]
      exact Nat.le_trans List.countP_le_length hcounted.recent.length_le
    refine ⟨hcounted.inSession tool, fun id => ?_, hcounted.inTurn tool, fun hfew => ?_⟩
    · rw [hcounted.inSession]
      exact QuotaCounts.inSession_ofRecords session.records tool
    · exact ⟨Nat.lt_of_le_of_lt hsession hfew, Nat.lt_of_le_of_lt hturn hfew⟩

/-- A registry with one tool. -/
def spyglass : ToolRegistry Id :=
  .ofTools
    [⟨"look", ⟨"look", "Looks around.", .object []⟩, fun _ _ => pure (.ok (.ok "seen"))⟩]

/-- Every prompt makes the model call a tool twice, and one that is not there. The second call is
denied, and the calls that run are those of the registry. -/
def obliging : Nat → (question : Ask) → question.Answer
  | _, .chat request =>
      if request.turns.getLast?.map Turn.role = some .user then
        some (.ok ⟨"", [look "a", look "b", ⟨⟨"c"⟩, "peer", .empty⟩], none⟩)
      else some (.ok ⟨"done", [], none⟩)
  | _, .check _ request => if request.toolCallId = ⟨"b"⟩ then .deny "not now" else .allow
  | _, .execute tool arguments call =>
      some (spyglass.execute tool arguments ⟨⟨"s"⟩, call, 0, ⟨0⟩⟩)
  | _, question => Dialogue.idleAnswer question

/-- An engine with a check. -/
def checking : Setup :=
  { Setup.plain with checks := 1 }

/-- The first run of a session. -/
def firstRun : List Exchange × Conclusion :=
  (run checking (.empty ⟨"s"⟩) "go on").play obliging 0

/-- The session as it is loaded after its first run. -/
def reloaded : Session :=
  .ofSnapshot ⟨"s"⟩ firstRun.2.1.snapshot

/-- The run of the session after that. -/
def secondRun : List Exchange × Conclusion :=
  (run checking reloaded "go on").play obliging 0

/-- What the second run added to the audit trail. -/
def secondRecords : List CallRecord :=
  secondRun.2.1.records.drop reloaded.records.length

theorem counts_follow_trail_after_two_runs :
    (run checking reloaded "go on").Leads secondRun.1 (.done secondRun.2) ∧
      Dict.get? spyglass "peer" = none ∧ Lived secondRun.2.1 secondRecords ∧
      secondRun.2.1.records.map (fun r => (r.step.toNat, r.toolName, r.outcome)) =
        [(1, "look", .succeeded), (1, "look", .denied), (1, "peer", .failed),
          (1, "look", .succeeded), (1, "look", .denied), (1, "peer", .failed)] ∧
      (∃ history added records now,
        checking.Compacts (reloaded.turns ++ [.user "go on" now]) history ∧
        secondRun.2.1.turns = history ++ added ∧
        secondRun.2.1.records = reloaded.records ++ records ∧
        Audit checking secondRun.1 added records) ∧
      (ToolRegistry.execute spyglass "peer" .empty ⟨⟨"s"⟩, ⟨"c"⟩, 0, ⟨0⟩⟩).success = false ∧
      secondRun.2.1.counts.inSession "look" = 2 ∧ secondRun.2.1.counts.inTurn "look" = 1 ∧
      secondRun.2.1.counts.inSession "peer" = 2 := by
  have hfirst : (run checking (.empty ⟨"s"⟩) "go on").Leads firstRun.1 (.done firstRun.2) :=
    Dialogue.leads_play obliging 0 _
  have hsecond : (run checking reloaded "go on").Leads secondRun.1 (.done secondRun.2) :=
    Dialogue.leads_play obliging 0 _
  have hlived : Lived secondRun.2.1 secondRecords :=
    .run (.reload ⟨"s"⟩ firstRun.2.1.snapshot (.run (.empty ⟨"s"⟩) hfirst)) hsecond
  obtain ⟨hruns, htools, hcounts⟩ := counts_follow_complete_trail
  refine ⟨hsecond, rfl, hlived, rfl, hruns _ _ _ _ _ _ hsecond, ?_, ?_, ?_, ?_⟩
  · rw [(htools Id spyglass "peer" .empty _ rfl).1]
    rfl
  · rw [(hcounts _ _ hlived "look").1]
    rfl
  · rw [(hcounts _ _ hlived "look").2.2.1]
    rfl
  · rw [(hcounts _ _ hlived "peer").1]
    rfl

end Engine

end AgentSessions
