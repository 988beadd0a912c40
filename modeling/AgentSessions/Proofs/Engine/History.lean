import AgentSessions.Proofs.Engine.Runs

/-!
# Histories stay well-formed

Whatever a model, tools, checks, the one who confirms and a summarizer do, whenever a run is
cancelled and whichever saves fail: what an engine saves of a well-formed session is well-formed,
and so is the session that it is left with.
-/

set_option autoImplicit false

namespace AgentSessions.Engine

theorem Goes.wellFormed {s : Session} {ms : List StoreMark} {c : Conclusion} (h : Goes s ms c)
    (hs : WellFormed s.turns) :
    WellFormed c.1.turns ∧
      ∀ mark ∈ ms, ∀ snapshot, mark.snapshot? = some snapshot → WellFormed snapshot.turns := by
  -- what is saved is the history of the step, which extends one that is well-formed
  induction h with
  | step hextends _ ih =>
      have hs' := hextends.wellFormed hs
      refine ⟨(ih hs').1, fun mark hmark snapshot hsnapshot => ?_⟩
      rcases List.mem_cons.mp hmark with rfl | hmark
      · cases hsnapshot
        exact hs'
      · exact (ih hs').2 mark hmark snapshot hsnapshot
  | unsaved e hextends =>
      have hs' := hextends.wellFormed hs
      refine ⟨hs', fun mark hmark snapshot hsnapshot => ?_⟩
      obtain rfl := List.mem_singleton.mp hmark
      cases hsnapshot
      exact hs'
  | finished hextends hresult =>
      have hs' := hextends.wellFormed hs
      refine ⟨hs', fun mark hmark snapshot hsnapshot => ?_⟩
      obtain rfl := List.mem_singleton.mp hmark
      cases hsnapshot
      exact hs'
  | stopped hextends hresult | stoppedUnsaved e hextends hresult =>
      have hs' := hextends.wellFormed hs
      refine ⟨hs', fun mark hmark snapshot hsnapshot => ?_⟩
      rcases List.mem_cons.mp hmark with rfl | hmark
      · cases hsnapshot
      · obtain rfl := List.mem_singleton.mp hmark
        cases hsnapshot
        exact hs'

/-- The session that is left after any number of runs, each of an engine that may be set up
differently, without a compactor or with one by settings. -/
inductive AfterRuns (start : Session) : Session → Prop where
  | start : AfterRuns start start
  | run {session session' : Session} {setup : Setup} {prompt : String} {trace : List Exchange}
      {result : Except RunError RunSummary} :
      AfterRuns start session → setup.Contextual →
      (run setup session prompt).Leads trace (.done (session', result)) → AfterRuns start session'

theorem AfterRuns.wellFormed {start session : Session} (h : AfterRuns start session)
    (hstart : WellFormed start.turns) : WellFormed session.turns := by
  induction h with
  | start => exact hstart
  | @run session session' setup prompt trace result _ hsetup hpath ih =>
      obtain ⟨s, -, hs, hgoes⟩ := (leaves_run setup session prompt).of_leads hpath
      exact (hgoes.wellFormed (hs hsetup ih)).1

/-- What a run means to save of a well-formed session is well-formed, also in a run that does not
come to its end. -/
theorem wellFormed_of_asks_save {setup : Setup} {session : Session} {prompt : String}
    (hsetup : setup.Contextual) (hsession : WellFormed session.turns) {trace : List Exchange}
    {snapshot : Snapshot}
    {next : (Ask.save snapshot).Answer → Dialogue Conclusion}
    (hpath : (run setup session prompt).Leads trace (.ask (.save snapshot) next)) :
    WellFormed snapshot.turns := by
  obtain ⟨rest, c, hrest⟩ := Dialogue.leads_done (next (.ok ()))
  -- had the save succeeded, the run would have come to an end with the save among its marks
  have hwhole := hpath.trans (.on (show (Ask.save snapshot).Answer from .ok ()) hrest)
  obtain ⟨s, -, hs, hgoes⟩ := (leaves_run setup session prompt).of_leads hwhole
  refine (hgoes.wellFormed (hs hsetup hsession)).2 (.saved snapshot) ?_ snapshot rfl
  rw [List.filterMap_append]
  exact List.mem_append_right _ List.mem_cons_self

/-- **Histories stay well-formed.** After any number of runs the session in memory is well-formed if
it was so at first, however the runs ended; and so is every snapshot that a run from there means to
save. The runs have no compactor or one by settings. -/
theorem well_formed_after_runs {start session : Session} (hstart : WellFormed start.turns)
    (hruns : AfterRuns start session) :
    WellFormed session.turns ∧
      ∀ (setup : Setup) (prompt : String) (trace : List Exchange) (snapshot : Snapshot)
        (next : (Ask.save snapshot).Answer → Dialogue Conclusion), setup.Contextual →
        (run setup session prompt).Leads trace (.ask (.save snapshot) next) →
        WellFormed snapshot.turns :=
  ⟨hruns.wellFormed hstart, fun _ _ _ _ _ hsetup hpath =>
    wellFormed_of_asks_save hsetup (hruns.wellFormed hstart) hpath⟩

/-- A session that was compacted and in which a call was answered since. -/
def compactedSession : Session :=
  { Session.empty ⟨"s"⟩ with
    turns :=
      [.summarizing "so far" default, .calling "" [look "a"] default,
        .toolResult ⟨"a"⟩ "seen" false default] }

/-- The model calls two tools. When the first one has run, the token is tripped, and the store is
full. -/
def interrupting : Nat → (question : Ask) → question.Answer
  | _, .chat _ => some (.ok ⟨"", [look "b", look "c"], none⟩)
  | _, .execute _ _ _ => some (.ok "seen again")
  | n, .isCancelled => decide (10 < n)
  | _, .save _ => .error (.io "no space")
  | _, question => Dialogue.idleAnswer question

/-- What comes of a run that is interrupted between two calls. -/
def interruptedRun : List Exchange × Conclusion :=
  (run .plain compactedSession "go on").play interrupting 0

theorem well_formed_after_interrupted_run :
    WellFormed compactedSession.turns ∧ AfterRuns compactedSession interruptedRun.2.1 ∧
      interruptedRun.2.1.turns = compactedSession.turns ++
        [.user "go on" default, .calling "" [look "b", look "c"] default,
          .toolResult ⟨"b"⟩ "seen again" false default,
          .toolResult ⟨"c"⟩ "Not executed: the run was cancelled." true default,
          .system "Run cancelled." default] ∧
      WellFormed interruptedRun.2.1.turns := by
  have hstart : WellFormed compactedSession.turns := by
    refine ⟨?_, fun turn hturn => ?_⟩
    · show Paired (_ :: ([] ++ _ :: ([_] ++ [])))
      refine .block Role.noConfusion .nil (.block Role.noConfusion ?_ .nil)
      exact .cons ⟨rfl, rfl⟩ .nil
    · simp only [compactedSession, List.tail_cons, List.mem_cons, List.not_mem_nil,
        or_false] at hturn
      rcases hturn with rfl | rfl <;> rfl
  have hruns : AfterRuns compactedSession interruptedRun.2.1 :=
    .run .start Setup.contextual_plain
      (Dialogue.leads_play interrupting 0 (run .plain compactedSession "go on"))
  exact ⟨hstart, hruns, rfl, (well_formed_after_runs hstart hruns).1⟩

end AgentSessions.Engine
