import AgentSessions.Orchestration.Service
import AgentSessions.Proofs.Engine.Cancellation
import AgentSessions.Proofs.Engine.Lifetime
import AgentSessions.Simulation.Thread

/-!
# Cancelled runs, with those they ask

What is asked in vain is put to nobody: a process that serves an engine goes on at once, with no
answer of the model or of the tool, when the token is tripped by then. With that, everything that a
run does after its token is tripped is known.
-/

set_option autoImplicit false

namespace AgentSessions

open Simulation (advance Frame)

/-! ## Questions in vain -/

namespace Collaborators

variable {η α : Type} {c : Collaborators η} {seat : Seat} {w : World η}

/-- The model is not asked when the token is tripped, and nothing happens in the world. -/
theorem advance_chat (h : w.isTripped seat.token = true) (request : ModelRequest)
    (next : (Engine.Ask.chat request).Answer → Dialogue α) (now : Nat)
    (frames : List (Frame (World η) α)) :
    advance now (c.serve seat (.ask (.chat request) next)) frames w =
      advance now (c.serve seat (next none)) frames w :=
  if_pos h

/-- A tool is not started when the token is tripped, and nothing happens in the world. -/
theorem advance_execute (h : w.isTripped seat.token = true) (tool : String)
    (arguments : Json.Object) (call : CallId)
    (next : (Engine.Ask.execute tool arguments call).Answer → Dialogue α) (now : Nat)
    (frames : List (Frame (World η) α)) :
    advance now (c.serve seat (.ask (.execute tool arguments call) next)) frames w =
      advance now (c.serve seat (next none)) frames w :=
  if_pos h

/-- A look at the token shows it as it is in the world. -/
theorem advance_isCancelled (next : Bool → Dialogue α) (now : Nat)
    (frames : List (Frame (World η) α)) :
    advance now (c.serve seat (.ask .isCancelled next)) frames w =
      advance now (c.serve seat (next (w.isTripped seat.token))) frames w :=
  rfl

/-- What is asked in vain is put to nobody: with the token tripped, a process that serves an engine
finds it so, and goes on at once where it would have asked the model or started a tool. -/
def PassesOver (c : Collaborators η) (seat : Seat) (w : World η) : Prop :=
  ∀ (α : Type) (now : Nat) (frames : List (Frame (World η) α)),
    (∀ next, advance now (c.serve seat (.ask .isCancelled next)) frames w =
      advance now (c.serve seat (next true)) frames w) ∧
    (∀ request next, advance now (c.serve seat (.ask (.chat request) next)) frames w =
      advance now (c.serve seat (next none)) frames w) ∧
    ∀ tool arguments call next,
      advance now (c.serve seat (.ask (.execute tool arguments call) next)) frames w =
        advance now (c.serve seat (next none)) frames w

theorem passesOver (h : w.isTripped seat.token = true) : c.PassesOver seat w :=
  fun _ now frames =>
    ⟨fun next => (advance_isCancelled next now frames).trans (by rw [h]),
      fun request next => advance_chat h request next now frames,
      fun tool arguments call next => advance_execute h tool arguments call next now frames⟩

end Collaborators

namespace Engine

open Dialogue (under_iff exists_unbroken)

/-- **Cancellation stops a run.** Whatever happens in a run, and whenever its token is tripped: from
then on no step asks the model and no tool is started, in this run and in those that begin with the
token tripped; at most one tool, whose call is in progress, is asked for, and in vain. When the run
is over, every call has one result and one record. All calls behind those that are settled before
the token is tripped are cancelled, except that the one in progress is settled by what is asked
about it; and if there are any, the run is neither answered nor out of steps. A run that is
cancelled says so last, and one that begins with its token tripped is cancelled. -/
theorem cancellation_stops_run {setup : Setup} {session : Session} {prompt : String}
    {t t' : Bool} {ms : List Moment} {d : Dialogue Conclusion} (hunbroken : Unbroken t ms t')
    (hpath : (run setup session prompt).Leads (exchanges ms) d) :
    (∀ (η : Type) (c : Collaborators η) (seat : Seat) (w : World η),
      w.isTripped seat.token = true → c.PassesOver seat w) ∧
    (vain ms = [] ∨ ∃ tool arguments call,
      vain ms = [⟨.execute tool arguments call, (none : Option ToolOutcome)⟩]) ∧
    (t = true → vain ms = []) ∧
    ∀ c, d = .done c →
      (∃ history added records now,
        setup.Compacts (session.turns ++ [.user prompt now]) history ∧
        c.1.turns = history ++ added ∧ c.1.records = session.records ++ records ∧
        Audit setup (exchanges ms) added records ∧
        Cuts setup session.id ms records ∧
        (settledInTime ms < records.length → ¬Finishes c.2)) ∧
      (c.2 = .error .cancelled →
        ∃ turns now, c.1.turns = turns ++ [.system "Run cancelled." now]) ∧
      (t = true → c.2 = .error .cancelled) := by
  have hrun := under_iff.mp (under_run setup session prompt t)
  refine ⟨fun η c seat w => Collaborators.passesOver, ?_⟩
  -- whatever has happened so far is part of a run that comes to its end
  obtain ⟨ms', t'', c', hunbroken', hpath'⟩ := exists_unbroken d t'
  have hwhole : (run setup session prompt).Leads (exchanges (ms ++ ms')) (.done c') := by
    rw [exchanges_append]
    exact hpath.trans hpath'
  obtain ⟨⟨⟨_, _, hstage, _⟩, _⟩, -⟩ := hrun _ _ _ (hunbroken.append hunbroken') hwhole
  have hprefix : vain ms <+: vain (ms ++ ms') := ⟨vain ms', (vain_append ms ms').symm⟩
  have hnothing : t = true → vain ms = [] := by
    rintro rfl
    rw [hstage.vain_eq_nil] at hprefix
    exact List.prefix_nil.mp hprefix
  refine ⟨?_, hnothing, ?_⟩
  · cases t with
    | true => exact .inl (hnothing rfl)
    | false =>
        rcases hstage.cuts.vain with hvain | ⟨tool, arguments, call, hvain⟩
        · rw [hvain] at hprefix
          exact .inl (List.prefix_nil.mp hprefix)
        · rw [hvain] at hprefix
          rcases List.prefix_cons_iff.mp hprefix with hnil | ⟨rest, hone, hrest⟩
          · exact .inl hnil
          · rw [List.prefix_nil.mp hrest] at hone
            exact .inr ⟨tool, arguments, call, hone⟩
  · rintro c rfl
    obtain ⟨⟨⟨records, hrecords, hstage, hopen⟩, hsays⟩, htripped⟩ := hrun ms t' c hunbroken hpath
    obtain ⟨history, added, records', now, hcompacts, hturns, hrecords', haudit⟩ :=
      Proceeds.audit ((notes_run setup session prompt).of_leads hpath)
    obtain rfl : records = records' := List.append_cancel_left (hrecords.symm.trans hrecords')
    refine ⟨⟨history, added, records, now, hcompacts, hturns, hrecords, haudit, ?_, hopen⟩, hsays,
      fun ht => (htripped ht).1⟩
    cases t with
    | false => exact hstage.cuts
    | true =>
        have hnil : records = [] := by
          have hkept := (htripped rfl).2
          rw [hrecords] at hkept
          simpa using hkept
        rw [hnil]
        exact ⟨.inl hstage.vain_eq_nil, fun r hr => by simp at hr, fun r hr => by simp at hr⟩

/-- The model calls two tools, and the first call is denied by a check. -/
def denying : Nat → (question : Ask) → question.Answer
  | _, .chat _ => some (.ok ⟨"", [look "a", look "b"], none⟩)
  | _, .check _ _ => .deny "not now"
  | n, .isCancelled => decide (7 < n)
  | _, question => Dialogue.idleAnswer question

/-- A run whose token is tripped by the check of its first call. -/
def deniedRun : List Exchange × Conclusion :=
  (run checking (.empty ⟨"s"⟩) "go on").play denying 0

/-- The moments of a path on which the token is tripped in the exchange with this number. -/
def trippedAt (n : Nat) (trace : List Exchange) : List Moment :=
  trace.zipIdx.map fun e => ⟨e.1, decide (n < e.2), decide (n ≤ e.2)⟩

theorem cancellation_stops_denied_run :
    Unbroken false (trippedAt 7 deniedRun.1) true ∧
      (run checking (.empty ⟨"s"⟩) "go on").Leads (exchanges (trippedAt 7 deniedRun.1))
        (.done deniedRun.2) ∧
      deniedRun.2.1.records.map CallRecord.outcome = [.denied, .cancelled] ∧
      settledInTime (trippedAt 7 deniedRun.1) = 0 ∧
      Cuts checking ⟨"s"⟩ (trippedAt 7 deniedRun.1) deniedRun.2.1.records ∧
      ¬Finishes deniedRun.2.2 ∧
      ∃ turns now, deniedRun.2.1.turns = turns ++ [.system "Run cancelled." now] := by
  have hunbroken : Unbroken false (trippedAt 7 deniedRun.1) true := by decide
  have hexchanges : exchanges (trippedAt 7 deniedRun.1) = deniedRun.1 := rfl
  have hpath : (run checking (.empty ⟨"s"⟩) "go on").Leads (exchanges (trippedAt 7 deniedRun.1))
      (.done deniedRun.2) := by
    rw [hexchanges]
    exact Dialogue.leads_play denying 0 _
  obtain ⟨-, -, -, hdone⟩ := cancellation_stops_run hunbroken hpath
  obtain ⟨⟨history, added, records, now, -, -, hrecords, -, hcuts, hopen⟩, hsays, -⟩ :=
    hdone _ rfl
  obtain rfl : deniedRun.2.1.records = records := hrecords
  exact ⟨hunbroken, hpath, rfl, rfl, hcuts, hopen (by decide), hsays rfl⟩

end Engine

end AgentSessions
