import AgentSessions.Proofs.Orchestration.Handings
import AgentSessions.Proofs.Orchestration.Writers

/-!
# Exclusive work on a session

What the leases, the accounts and the handling of prompts, and the visits to the store come to
together: a session has one engine at a time, every prompt is run once, and no engine writes over
what another one saved.
-/

set_option autoImplicit false

namespace AgentSessions.Floor

variable {setup : Engine.Setup} {isChild : SessionId → Prop} {maxBacklog : Option Nat}
  {store : SessionId → Option Snapshot} {log : List Entry} {f : Floor}

/-- How many engines there are for a session. -/
def engines (f : Floor) (id : SessionId) : Nat :=
  f.underway.countP fun u => u.activity.session = id ∧ u.pending.engine?.isSome

theorem engines_le_underway (f : Floor) (id : SessionId) :
    f.engines id ≤ f.underway.countP fun u => u.activity.session = id := by
  refine List.countP_mono_left fun u _ hu => ?_
  rw [decide_eq_true_eq] at hu ⊢
  exact hu.1

theorem Runs.engines_le (h : Runs setup isChild (opening maxBacklog store) log f)
    (id : SessionId) : f.engines id ≤ if f.desk.queue.isBusy id then 1 else 0 := by
  rw [← h.countP_underway id]
  exact f.engines_le_underway id

/-- **Work on a session is exclusive, and every prompt is run once.** For a session that belongs to
no task, at every moment: it has at most one engine, and is busy while it has one. A prompt is
handed over at most as often as it was let in, and what was made to wait was taken by a drain, was
dropped, or still waits, of which nothing does when the session is idle; and every engine that runs
a prompt was made next after that prompt was handed over. Every engine was made over exactly what
was saved last, and only the one that was made last saves. -/
theorem exclusive_and_once (h : Runs setup isChild (opening maxBacklog store) log f)
    {id : SessionId} (hid : ¬isChild id) :
    (f.engines id ≤ 1 ∧ (0 < f.engines id → f.desk.queue.isBusy id = true)) ∧
      (∀ m, m.sessionId = id →
        times log m .ran + times log m .drained ≤ times log m .granted + times log m .queued ∧
        times log m .queued = times log m .drained + times log m .dropped
          + (f.desk.queue.waiting id).count m ∧
        (f.desk.queue.isBusy id = false →
          times log m .queued = times log m .drained + times log m .dropped)) ∧
      Once (handlings id log) ∧
      Chained id (store id) (visits id log) ∧
      f.store id = lastSaved (store id) (visits id log) := by
  have hengines := h.engines_le id
  have haccounted := h.accounted
  have htended := h.tended hid
  refine ⟨⟨?_, fun hpos => ?_⟩, fun m hm => ?_, (h.begun id).once, htended.chained, htended.stored⟩
  · split at hengines
    · exact hengines
    · omega
  · split at hengines
    · assumption
    · omega
  · have hqueued := haccounted.queued m
    have hgranted := haccounted.granted m
    rw [hm] at hqueued
    refine ⟨by omega, hqueued, fun hidle => ?_⟩
    rw [h.orderly.waiting id hidle, List.count_nil] at hqueued
    exact hqueued

/-- What is stored when the first run of `exclusive_and_once_after_cancelled_run` ends. -/
def cancelledHistory : Snapshot :=
  ⟨[.user "first" default, .system "Run cancelled." default], []⟩

/-- A run is cancelled while another prompt waits. The drain that takes over makes its engine over
what the first one saved. -/
theorem exclusive_and_once_after_cancelled_run :
    ∃ f, (¬(fun id => id = ⟨"child"⟩) (⟨"s"⟩ : SessionId)) ∧
      Runs .plain (fun id => id = ⟨"child"⟩) (opening (some 1) fun _ => none)
        [.came (promptFor "first") .granted, .handed (promptFor "first") .direct,
          .came (promptFor "second") (.queued (promptFor "second") 1),
          .opened ⟨0⟩ (.empty ⟨"s"⟩) (some "first"), .saved ⟨0⟩ ⟨"s"⟩ cancelledHistory,
          .handed (promptFor "second") .drain,
          .opened ⟨3⟩ (.ofSnapshot ⟨"s"⟩ cancelledHistory) (some "second")] f ∧
      f.engines ⟨"s"⟩ = 1 ∧ f.desk.queue.isBusy ⟨"s"⟩ = true ∧
      f.store ⟨"s"⟩ = some cancelledHistory := by
  have hstart : Runs .plain (fun id => id = ⟨"child"⟩) (opening (some 1) fun _ => none)
      [] (opening (some 1) fun _ => none) := .start
  have hcame := (hstart.step (.receives _ (promptFor "first") true)).step
    (.receives _ (promptFor "second") true)
  -- the store knows nothing of the session, and an engine is made over an empty one
  have hloaded := (hcame.step (.looksUp (.ok none) (alone rfl)
    fun _ h => (Except.ok.inj h).symm)).step (.advances (alone rfl) rfl)
  -- the start is reported, the prompt gets its time, and the token turns out to be tripped
  have hasked := ((hloaded.step (.answers () (alone rfl))).step
    (.answers default (alone rfl))).step
    (.answers true (alone rfl))
  have hnoted := hasked.step (.answers default (alone rfl))
  have hsaved := hnoted.step (.answers (show (Engine.Ask.save cancelledHistory).Answer from .ok ())
    (alone rfl))
  -- the end is reported, the lease goes to a drain, and the drain takes the second prompt
  have htaken := ((hsaved.step (.answers () (alone rfl))).step
    (.advances (alone rfl) rfl)).step
    (.advances (alone rfl) rfl)
  have hreloaded := (htaken.step (.looksUp (.ok (some cancelledHistory))
    (alone rfl) fun _ h => (Except.ok.inj h).symm)).step
    (.advances (alone rfl) rfl)
  have hchild : ¬(fun id => id = ⟨"child"⟩) (⟨"s"⟩ : SessionId) := by decide
  have hexclusive := exclusive_and_once hreloaded hchild
  refine ⟨_, hchild, hreloaded, ?_, ?_, ?_⟩
  · rfl
  · exact hexclusive.1.2 Nat.one_pos
  · rw [hexclusive.2.2.2.2]
    rfl

end AgentSessions.Floor
