import AgentSessions.Event
import AgentSessions.Proofs.Json.RoundTrip

/-!
# Reading back events

An event is one flat object, and its members come from three sides: the name of its kind, the
session and the time, and the fields of its body. Their keys never meet (`EventBody.nodup_keys`), so
sorting the members only moves them. An event is read in two passes: the first looks for the name of
its kind and keeps everything (`Event.readMembers_ofMembers`), and the second takes the session, the
time and the fields of that kind from what was kept, where the name of the kind is a member that the
record does not know (`Event.decoder_record`). Neither pass minds where a member stands, so an event
is read from its members in any order (`Event.decoder_of_perm`).
-/

set_option autoImplicit false

namespace AgentSessions

open Json Json.Decoder Json.Record

/-! ## Bodies -/

namespace EventBody

/-- The name that is derived from the variant is the one that the event gives itself. -/
theorem tag_eq_kind (b : EventBody) : b.tag = b.kind := by
  cases b <;> simp only [tag, variant, kind] <;> decide

example : (compactionComplete 900 120 false).tag = "compaction_complete" := by decide

/-- No two members of an event stand under one key. -/
theorem nodup_keys (b : EventBody) :
    ("type" :: "sessionId" :: "timestamp" :: b.fields.map Prod.fst).Nodup := by
  cases b <;> simp [fields]

theorem nodup_records : (records.map Prod.fst).Nodup := by decide

theorem reads_outcome (o : CallOutcome) : outcomeDecoder.Reads o.encode o :=
  reads_oneOfWith Blank.nullOrEmpty (by cases o <;> rfl)

/-- There is a record under the name of a body, and it reads the fields of that body. -/
theorem reads (b : EventBody) : ∃ r, (b.tag, r) ∈ records ∧ r.Reads (b.fields.map some) b := by
  have htext (name s : String) : (field name Decoder.string).Reads _ s :=
    reads_field name (reads_string s)
  have hword (name : String) (n : UInt32) : (field name uint32).Reads _ n :=
    reads_field name (reads_uint32 n)
  have hcount (name : String) (n : UInt64) : (field name uint64).Reads _ n :=
    reads_field name (reads_uint64 n)
  -- the records stand in the order of the variants, so each one is found by its place
  cases b with
  | runStart => exact ⟨_, List.mem_of_getElem? (i := 0) rfl, reads_pure _⟩
  | stepStart step =>
      exact ⟨_, List.mem_of_getElem? (i := 1) rfl, (hword "step" step).map stepStart⟩
  | toolStart call tool =>
      have hcall := (htext "toolCallId" call).map toolStart
      exact ⟨_, List.mem_of_getElem? (i := 2) rfl, hcall.seq (htext "toolName" tool)⟩
  | toolEnd call tool outcome =>
      have htool := ((htext "toolCallId" call).map toolEnd).seq (htext "toolName" tool)
      exact ⟨_, List.mem_of_getElem? (i := 3) rfl,
        htool.seq (reads_field "outcome" (reads_outcome outcome))⟩
  | quotaExceeded tool limit =>
      have htool := (htext "toolName" tool).map quotaExceeded
      exact ⟨_, List.mem_of_getElem? (i := 4) rfl, htool.seq (hword "limit" limit)⟩
  | compactionComplete before after truncated =>
      have hbefore := (hcount "tokensBefore" before).map compactionComplete
      have hafter := hbefore.seq (hcount "tokensAfter" after)
      exact ⟨_, List.mem_of_getElem? (i := 5) rfl,
        hafter.seq (reads_field "truncated" (reads_bool truncated))⟩
  | runEnd steps reason =>
      have hsteps := (hword "steps" steps).map runEnd
      exact ⟨_, List.mem_of_getElem? (i := 6) rfl, hsteps.seq (htext "stopReason" reason)⟩
  | runFailed error category =>
      have herror := (htext "error" error).map runFailed
      exact ⟨_, List.mem_of_getElem? (i := 7) rfl, herror.seq (htext "category" category)⟩
  | messageQueued message queued =>
      have hmessage := (htext "messageId" message).map messageQueued
      exact ⟨_, List.mem_of_getElem? (i := 8) rfl, hmessage.seq (hcount "queued" queued)⟩
  | taskStateChanged task state =>
      have htask := (htext "taskId" task).map taskStateChanged
      exact ⟨_, List.mem_of_getElem? (i := 9) rfl, htask.seq (htext "state" state)⟩

/-- What is written of a body is free JSON. -/
theorem isCanonical_fields (b : EventBody) : ∀ m ∈ b.fields, m.2.isCanonical = true := by
  cases b <;> simp [fields, Value.nat, CallOutcome.encode, Value.isCanonical]

end EventBody

/-! ## Events -/

namespace Event

theorem nodup_keys (e : Event) : (e.members.map Prod.fst).Nodup :=
  e.body.nodup_keys

theorem isCanonical_members (e : Event) : ∀ m ∈ e.members, m.2.isCanonical = true := by
  simp only [members, List.forall_mem_cons]
  exact ⟨rfl, rfl, rfl, e.body.isCanonical_fields⟩

/-- Sorting an event only moves its members, so each is found under its key. -/
theorem get_arranged (e : Event) (sorted : Bool) {m : String × Value} (h : m ∈ e.members) :
    (e.encode.arranged sorted).get m.1 = m.2 := by
  obtain ⟨members, harranged, hperm⟩ :=
    Value.exists_perm e.nodup_keys e.isCanonical_members sorted
  rw [encode, harranged, Value.get, Entries.get?_of_perm hperm e.nodup_keys,
    Entries.get?_of_mem e.nodup_keys h, Option.getD_some]

/-! ## The first pass -/

/-- Members among which the name of a kind does not stand are passed over. -/
theorem readMembers_without_type {members : List (String × Value)}
    (hcanonical : ∀ m ∈ members, m.2.isCanonical = true) (hnone : "type" ∉ members.map Prod.fst)
    (found : Option (Record EventBody)) :
    readMembers none (Node.ofMembers members) found = .ok found := by
  induction members with
  | nil => rfl
  | cons head rest ih =>
      obtain ⟨name, v⟩ := head
      obtain ⟨hv, hrest⟩ := List.forall_mem_cons.mp hcanonical
      rw [List.map_cons, List.mem_cons, not_or] at hnone
      have hvalue := toValue_ofValue v hv
      rw [Node.ofMembers]
      unfold readMembers
      simp only [Key.read, bind, Except.bind, if_neg (Ne.symm hnone.1), hvalue]
      exact ih hrest hnone.2

/-- The first pass finds the kind, wherever its name stands. -/
theorem readMembers_ofMembers {members : List (String × Value)}
    (hdistinct : (members.map Prod.fst).Nodup)
    (hcanonical : ∀ m ∈ members, m.2.isCanonical = true) {name : String}
    (hname : ("type", .string name) ∈ members) {r : Record EventBody}
    (hrecord : Entries.get? name EventBody.records = some r) :
    readMembers none (Node.ofMembers members) none = .ok (some r) := by
  induction members with
  | nil => cases hname
  | cons head rest ih =>
      obtain ⟨key, v⟩ := head
      obtain ⟨hv, hrest⟩ := List.forall_mem_cons.mp hcanonical
      rw [List.map_cons, List.nodup_cons] at hdistinct
      rw [Node.ofMembers, readMembers]
      rcases List.mem_cons.mp hname with hhead | hlater
      · obtain ⟨rfl, rfl⟩ := Prod.mk.inj hhead
        have hkind : kindDecoder none (.ofValue (.string name)) = .ok r := by
          show variant EventBody.records name = _
          rw [variant, hrecord]
        simp only [Key.read, bind, Except.bind, if_pos, hkind]
        exact readMembers_without_type hrest hdistinct.1 (some r)
      · -- the name stands further back, so this is another member
        have hother : key ≠ "type" := fun hsame =>
          hdistinct.1 (List.mem_map.mpr ⟨_, hlater, hsame.symm⟩)
        have hvalue := toValue_ofValue v hv
        simp only [Key.read, bind, Except.bind, if_neg hother, hvalue]
        exact ih hdistinct.2 hrest hlater

/-! ## The second pass -/

/-- The record of an event reads all that is written of it but the name of its kind. -/
theorem reads_record (e : Event) {r : Record EventBody}
    (h : r.Reads (e.body.fields.map some) e.body) :
    (record r).Reads (e.members.tail.map some) e := by
  have hsession := (reads_field "sessionId" (reads_string e.sessionId)).map mk
  have htime := hsession.seq (reads_field "timestamp" (reads_string e.timestamp))
  exact htime.seq h

/-- The second pass takes the event from its members, wherever they stand. -/
theorem decoder_record (e : Event) {r : Record EventBody}
    (h : r.Reads (e.body.fields.map some) e.body) {members : List (String × Value)}
    (hperm : members.Perm e.members) :
    (record r).decoder none (.object (Node.ofMembers members) .closed) = .ok e := by
  have hread := e.reads_record h
  have hdistinct := (hperm.map Prod.fst).nodup_iff.mpr e.nodup_keys
  refine hread.decoder_ofMembers hdistinct false fun p hp => ?_
  -- every field of the record is written, and stands among the members
  obtain ⟨m, hm, hwritten⟩ := List.mem_map.mp (List.of_mem_zip hp).2
  have hname := (hread.checks p hp m hwritten.symm).1
  rw [Entries.get?_of_perm hperm e.nodup_keys, ← hname, ← hwritten]
  exact Entries.get?_of_mem e.nodup_keys (List.mem_of_mem_tail hm)

/-! ## Reading back -/

/-- An event is decoded from its members in any order. -/
theorem decoder_of_perm (e : Event) {members : List (String × Value)}
    (hperm : members.Perm e.members) : decoder none (.ofValue (.object members)) = .ok e := by
  obtain ⟨r, hr, hbody⟩ := e.body.reads
  have hdistinct := (hperm.map Prod.fst).nodup_iff.mpr e.nodup_keys
  have hcanonical : ∀ m ∈ members, m.2.isCanonical = true :=
    fun m hm => e.isCanonical_members m (hperm.mem_iff.mp hm)
  have hname : ("type", .string e.body.tag) ∈ members := hperm.mem_iff.mpr List.mem_cons_self
  have hfound := Entries.get?_of_mem EventBody.nodup_records hr
  have hkind := readMembers_ofMembers hdistinct hcanonical hname hfound
  have hevent := e.decoder_record hbody hperm
  rw [Node.ofValue, decoder]
  simp only [Node.enter, Node.Close.pass, bind, Except.bind, hkind, hevent]

theorem reads (e : Event) : decoder.Reads e.encode e := by
  intro sorted
  obtain ⟨members, harranged, hperm⟩ :=
    Value.exists_perm e.nodup_keys e.isCanonical_members sorted
  rw [encode, harranged]
  exact e.decoder_of_perm hperm

/-- An event is decoded from its encoding; what is written under `type` and `sessionId` is what the
event says of itself; and the name of its kind, the session, the time and the fields of its body
stand under different keys, so nothing that is written is lost when the members are sorted. -/
theorem events_are_read_back (e : Event) :
    decoder.Undoes encode e ∧
      (∀ sorted, (e.encode.arranged sorted).get "type" = .string e.kind ∧
        (e.encode.arranged sorted).get "sessionId" = .string e.sessionId) ∧
      e.encode = .object e.members ∧
      e.members.map Prod.fst = "type" :: "sessionId" :: "timestamp" :: e.body.fields.map Prod.fst ∧
      (e.members.map Prod.fst).Nodup ∧
      ∃ members, e.encode.canonicalize = .object members ∧ members.Perm e.members := by
  refine ⟨e.reads.undoes, fun sorted => ⟨?_, ?_⟩, rfl, rfl, e.nodup_keys,
    Value.exists_perm e.nodup_keys e.isCanonical_members true⟩
  · rw [kind, ← e.body.tag_eq_kind]
    exact e.get_arranged sorted List.mem_cons_self
  · exact e.get_arranged sorted (List.mem_cons_of_mem _ List.mem_cons_self)

end Event

end AgentSessions
