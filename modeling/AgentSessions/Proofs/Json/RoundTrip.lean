import AgentSessions.Proofs.Json.Exchanged
import AgentSessions.Proofs.Settings.ReadingBack

/-!
# Decoding undoes encoding

Every value that is stored or exchanged is decoded from its encoding, whichever of its fields are
absent, empty or false, and whether the fields stand in the order of declaration or sorted. Two
things are no matter of the encodings themselves: whether a time is read back from its text, and
that only finite numbers can be written.
-/

set_option autoImplicit false

namespace AgentSessions

open Json (Decoder Value)

/-- The value is decoded from its encoding, as it is and with sorted members. -/
def Json.Decoder.Undoes {α : Type} (d : Decoder α) (encode : α → Value) (a : α) : Prop :=
  d.value? (encode a) = .ok a ∧ d.value? (encode a).canonicalize = .ok a

theorem Json.Decoder.Reads.undoes {α : Type} {d : Decoder α} {encode : α → Value} {a : α}
    (h : d.Reads (encode a) a) : d.Undoes encode a :=
  ⟨Decoder.value?_eq_ok (h false), Decoder.value?_eq_ok (h true)⟩

/-- Decoding undoes encoding. -/
theorem decode_encode :
    (∀ c : ToolCall, ToolCall.decoder.Undoes ToolCall.encode c) ∧
      (∀ t : Turn, t.timestamp.ReadsBack → Turn.decoder.Undoes Turn.encode t) ∧
      (∀ r : CallRecord, r.timestamp.ReadsBack → CallRecord.decoder.Undoes CallRecord.encode r) ∧
      (∀ s : Snapshot, (∀ t ∈ s.turns, t.timestamp.ReadsBack) →
        (∀ r ∈ s.records, r.timestamp.ReadsBack) → Snapshot.decoder.Undoes Snapshot.encode s) ∧
      (∀ r : ModelResponse, ModelResponse.decoder.Undoes ModelResponse.encode r) ∧
      (∀ m : QueuedMessage, m.createdAt.ReadsBack →
        QueuedMessage.decoder.Undoes QueuedMessage.encode m) ∧
      (∀ t : Task, t.createdAt.ReadsBack → (∀ i ∈ t.startedAt, i.ReadsBack) →
        (∀ i ∈ t.finishedAt, i.ReadsBack) → Task.decoder.Undoes Task.encode t) ∧
      (∀ s : RunSummary, RunSummary.decoder.Undoes RunSummary.encode s) ∧
      (∀ o : ToolOutcome, ToolOutcome.decoder.Undoes ToolOutcome.encode o) ∧
      (∀ o : PreOutcome, PreOutcome.decoder.Undoes PreOutcome.encode o) ∧
      (∀ o : PostOutcome, PostOutcome.decoder.Undoes PostOutcome.encode o) ∧
      ∀ s : Settings, s.compaction.threshold.isFinite = true →
        Settings.decoder.Undoes Settings.encode s := by
  refine ⟨fun c => c.reads.undoes, fun t h => (Turn.reads h).undoes,
    fun r h => (CallRecord.reads h).undoes, fun s hturns hrecords => ?_,
    fun r => r.reads.undoes, fun m h => (QueuedMessage.reads h).undoes,
    fun t hcreated hstarted hfinished => ?_, fun s => s.reads.undoes, fun o => o.reads.undoes,
    fun o => o.reads.undoes, fun o => o.reads.undoes, fun s h => (Settings.reads h).undoes⟩
  · exact (Snapshot.reads hturns hrecords).undoes
  · exact (Task.reads hcreated hstarted hfinished).undoes

namespace Sample

/-- A time with a fraction of nine digits. -/
def time : Instant := .ofMillis 1704067200000 1

/-- A call that was answered by an empty error, and a summary. -/
def session : Snapshot where
  turns :=
    [.calling "" [⟨⟨"call_1"⟩, "grep", .ofMembers [("path", .null)]⟩] time,
      .toolResult ⟨"call_1"⟩ "" true time, .summarizing "found nothing" time]
  records := [⟨"grep", .empty, 1, .failed, time⟩]

/-- A prompt without metadata. -/
def message : QueuedMessage :=
  ⟨⟨"msg_1"⟩, ⟨"sess_1"⟩, "go on", .urgent, .empty, time⟩

/-- A task that was cancelled before it started. -/
def task : Task :=
  ⟨⟨"task_1"⟩, "look", "explore", .cancelled, .normal, none, ⟨"sess_2"⟩, 1, time, none, some time,
    none, some ""⟩

/-- Settings in which a tool may run without limit. -/
def settings : Settings :=
  { (default : Settings) with
    engine := { (default : EngineSettings) with toolQuotas := .ofList [("grep", .unlimited)] } }

end Sample

/-- The times of the samples and the default threshold are read back, and so are the samples. -/
theorem decode_encode_samples :
    (∀ t ∈ Sample.session.turns, t.timestamp.ReadsBack ∧ Turn.decoder.Undoes Turn.encode t) ∧
      (∀ r ∈ Sample.session.records, r.timestamp.ReadsBack ∧
        CallRecord.decoder.Undoes CallRecord.encode r) ∧
      Snapshot.decoder.Undoes Snapshot.encode Sample.session ∧
      (Sample.message.createdAt.ReadsBack ∧
        QueuedMessage.decoder.Undoes QueuedMessage.encode Sample.message) ∧
      (Sample.task.createdAt.ReadsBack ∧ Sample.task.finishedAt = some Sample.time ∧
        Task.decoder.Undoes Task.encode Sample.task) ∧
      Sample.settings.compaction.threshold.isFinite = true ∧
      Settings.decoder.Undoes Settings.encode Sample.settings := by
  have htime : Sample.time.ReadsBack := by decide +kernel
  have hturns : ∀ t ∈ Sample.session.turns, t.timestamp.ReadsBack := by
    intro t ht
    simp only [Sample.session, List.mem_cons, List.not_mem_nil, or_false] at ht
    rcases ht with rfl | rfl | rfl <;> exact htime
  have hrecords : ∀ r ∈ Sample.session.records, r.timestamp.ReadsBack := by
    intro r hr
    obtain rfl := List.mem_singleton.mp hr
    exact htime
  have hfinite : Sample.settings.compaction.threshold.isFinite = true := by decide +kernel
  obtain ⟨-, hturn, hrecord, hsnapshot, -, hmessage, htask, -, -, -, -, hsettings⟩ := decode_encode
  refine ⟨fun t ht => ⟨hturns t ht, hturn t (hturns t ht)⟩,
    fun r hr => ⟨hrecords r hr, hrecord r (hrecords r hr)⟩, hsnapshot _ hturns hrecords,
    ⟨htime, hmessage _ htime⟩, ⟨htime, rfl, htask _ htime ?_ ?_⟩, hfinite, hsettings _ hfinite⟩
  · exact fun i hi => nomatch hi
  · intro i hi
    obtain rfl := Option.some.inj hi
    exact htime

end AgentSessions
