import AgentSessions.Proofs.Store.Saves

/-!
# Files as a map of sessions

Loads and saves in any order, each save on a medium that may fail at any of its steps
(`FileStore.run`). The file of a session holds what the last save that succeeded has put there
(`Holds`); so a load gives that snapshot, as long as the reader of JSON undoes its writer, and a
save shows in no load but that of its own session, and in none if it fails
(`files_keep_last_saves`).

A name has at most 255 bytes. A session with a longer name is never saved, and a load of it finds
nothing or fails, which depends on whether there is a directory yet (`long_name_fails_load`).
-/

set_option autoImplicit false

namespace AgentSessions.FileStore

open Json (Decoder)

/-! ## Sequences of requests -/

/-- What is asked of a store. `fault` tells how the medium fails a save, if it does. -/
inductive Request where
  | load (id : SessionId)
  | save (id : SessionId) (snapshot : Snapshot) (fault : Option SaveFault)

/-- What a store answers. -/
inductive Reply where
  | loaded (result : Except StoreError (Option Snapshot))
  | saved (result : Except StoreError Unit)

/-- The answer of a store, and the directory behind it. -/
def serve (d : Directory) : Request → Reply × Directory
  | .load id => (.loaded (load d id), d)
  | .save id snapshot fault =>
      let (result, d) := saveUnless fault d id snapshot
      (.saved result, d)

theorem serve_save (d : Directory) (id : SessionId) (snapshot : Snapshot)
    (fault : Option SaveFault) :
    serve d (.save id snapshot fault) =
      (.saved (saveUnless fault d id snapshot).1, (saveUnless fault d id snapshot).2) :=
  rfl

/-- The answers to requests in turn, and the directory behind them. -/
def run (d : Directory) : List Request → List (Request × Reply) × Directory
  | [] => ([], d)
  | request :: rest =>
      let (reply, d) := serve d request
      let (log, d) := run d rest
      ((request, reply) :: log, d)

/-- What is kept of a session: a save that succeeds replaces it. -/
def keep (id : SessionId) (kept : Option Snapshot) : Request × Reply → Option Snapshot
  | (.save id' snapshot _, .saved (.ok ())) => if id' = id then some snapshot else kept
  | _ => kept

/-- The snapshot of the last save of a session that succeeded. -/
def lastSaved (id : SessionId) (log : List (Request × Reply)) : Option Snapshot :=
  log.foldl (keep id) none

/-! ## Loads -/

/-- What a snapshot is written as reads as the snapshot. -/
def ReadsBack (snapshot : Snapshot) : Prop :=
  Decoder.text? Snapshot.decoder snapshot.encode.pretty = .ok snapshot

/-- The name of the session is short enough for a file. -/
def IsShort (id : SessionId) : Prop :=
  (fileName id).utf8ByteSize ≤ 255

/-- The file that a snapshot is written to. -/
def entryOf (snapshot : Snapshot) : DirEntry :=
  .file snapshot.encode.pretty.toUTF8

theorem fromUTF8?_toUTF8 (s : String) : String.fromUTF8? s.toUTF8 = some s := by
  rw [String.fromUTF8?, String.toUTF8_eq_toByteArray, dif_pos s.isValidUTF8]
  rfl

theorem allows_of_short (d : Directory) {id : SessionId} (h : IsShort id) :
    d.allows (fileName id) = true := by
  unfold Directory.allows
  unfold IsShort at h
  rw [decide_eq_true_iff]
  split <;> omega

/-- A load depends on the file of its session alone. -/
theorem load_congr {d d' : Directory} {id : SessionId} (hshort : IsShort id)
    (h : d'.get? (fileName id) = d.get? (fileName id)) : load d' id = load d id := by
  unfold load
  rw [allows_of_short d hshort, allows_of_short d' hshort, h]

theorem load_of_entry {d : Directory} {id : SessionId} (husable : isUsable id = true)
    (hshort : IsShort id) {kept : Option Snapshot} (hreads : ∀ s, kept = some s → ReadsBack s)
    (h : d.get? (fileName id) = kept.map entryOf) : load d id = .ok kept := by
  unfold load
  rw [husable, allows_of_short d hshort, h]
  cases kept with
  | none => rfl
  | some s =>
      have hread : Decoder.text? Snapshot.decoder s.encode.pretty = .ok s := hreads s rfl
      simp only [Option.map_some, entryOf, fromUTF8?_toUTF8, hread]
      rfl

theorem load_of_unusable {id : SessionId} (h : isUsable id = false) (d : Directory) :
    load d id = .error (refusal id) := by
  unfold load
  rw [h]
  rfl

/-! ## Saves among the others -/

theorem saveUnless_of_unusable {id : SessionId} (h : isUsable id = false) (fault : Option SaveFault)
    (d : Directory) (snapshot : Snapshot) :
    saveUnless fault d id snapshot = (.error (refusal id), d) := by
  unfold saveUnless
  rw [h]
  rfl

/-- A save that fails shows in no load. -/
theorem load_after_failed {fault : Option SaveFault} {d d' : Directory} {id : SessionId}
    {snapshot : Snapshot} {e : StoreError} (h : saveUnless fault d id snapshot = (.error e, d'))
    {id' : SessionId} (hshort : IsShort id') : load d' id' = load d id' := by
  have hsaves := saves_saveUnless fault d id snapshot
  rw [h] at hsaves
  cases hsaves with
  | refused hunusable => rfl
  | failed husable hspares =>
      exact load_congr hshort (hspares _ (fileName_ne_temporaryName id' id))

/-- A save that succeeds shows in no load of another session. -/
theorem load_of_other {fault : Option SaveFault} {d d' : Directory} {id : SessionId}
    {snapshot : Snapshot} (h : saveUnless fault d id snapshot = (.ok (), d')) {id' : SessionId}
    (hother : id' ≠ id) (hshort : IsShort id') : load d' id' = load d id' := by
  have hsaves := saves_saveUnless fault d id snapshot
  rw [h] at hsaves
  cases hsaves with
  | done husable hallows hfile hspares =>
      exact load_congr hshort (hspares _ (fun hsame => hother (fileName_injective hsame))
        (fileName_ne_temporaryName id' id))

/-- Only a session with a short name is saved. -/
theorem short_of_saved {fault : Option SaveFault} {d d' : Directory} {id : SessionId}
    {snapshot : Snapshot} (h : saveUnless fault d id snapshot = (.ok (), d')) : IsShort id := by
  have hsaves := saves_saveUnless fault d id snapshot
  rw [h] at hsaves
  cases hsaves with
  | done husable hallows hfile hspares =>
      have hlength : (temporaryName id).utf8ByteSize ≤ 255 := of_decide_eq_true hallows
      rw [temporaryName, String.utf8ByteSize_append] at hlength
      rw [IsShort, fileName, String.utf8ByteSize_append]
      exact Nat.le_trans (Nat.add_le_add_left (by decide) _) hlength

/-- A name that the directory does not allow fails a load. -/
theorem load_of_disallowed {d : Directory} {id : SessionId} (husable : isUsable id = true)
    (hdisallowed : d.allows (fileName id) = false) :
    load d id = .error (.io "the name is too long") := by
  unfold load
  rw [husable, hdisallowed]
  rfl

theorem load_of_absent {d : Directory} {id : SessionId} (husable : isUsable id = true)
    (hallows : d.allows (fileName id) = true) (hnone : d.get? (fileName id) = none) :
    load d id = .ok none := by
  unfold load
  rw [husable, hallows, hnone]
  rfl

/-- A load of a session with a longer name finds no file, or the medium fails it. -/
theorem load_of_long {d : Directory} {id : SessionId} (husable : isUsable id = true)
    (hnone : d.get? (fileName id) = none) :
    load d id = .ok none ∨ ∃ detail, load d id = .error (.io detail) := by
  cases hallows : d.allows (fileName id) with
  | false => exact .inr ⟨_, load_of_disallowed husable hallows⟩
  | true => exact .inl (load_of_absent husable hallows hnone)

/-! ## Runs -/

/-- The directory holds what is kept of every session. -/
structure Holds (kept : SessionId → Option Snapshot) (d : Directory) : Prop where
  file : ∀ id, isUsable id = true → d.get? (fileName id) = (kept id).map entryOf
  short : ∀ id snapshot, kept id = some snapshot → IsShort id
  reads : ∀ id snapshot, kept id = some snapshot → ReadsBack snapshot

/-- What is kept was kept before, or a save of the session has succeeded. -/
theorem saved_of_keep {d : Directory} {request : Request} {id : SessionId}
    {kept : Option Snapshot} {snapshot : Snapshot}
    (h : keep id kept (request, (serve d request).1) = some snapshot) :
    kept = some snapshot ∨ ∃ fault d', request = .save id snapshot fault ∧
      saveUnless fault d id snapshot = (.ok (), d') := by
  cases request with
  | load id' => exact .inl h
  | save id' s fault =>
      rw [serve_save] at h
      cases hsaved : saveUnless fault d id' s with
      | mk result d' =>
      rw [hsaved] at h
      cases result with
      | error e => exact .inl h
      | ok done =>
          rw [keep] at h
          split at h
          · rename_i hid
            cases h
            exact .inr ⟨fault, d', by rw [hid], hid ▸ hsaved⟩
          · exact .inl h

/-- One request: what is kept follows its answer. -/
theorem Holds.serve {kept : SessionId → Option Snapshot} {d : Directory} (h : Holds kept d)
    {request : Request}
    (hreads : ∀ id snapshot fault, request = .save id snapshot fault → ReadsBack snapshot) :
    Holds (fun id => keep id (kept id) (request, (serve d request).1)) (serve d request).2 where
  file id husable := by
    cases request with
    | load id' => exact h.file id husable
    | save id' snapshot fault =>
        have hsaves := saves_saveUnless fault d id' snapshot
        rw [serve_save]
        generalize saveUnless fault d id' snapshot = saved at hsaves ⊢
        -- only a save that is done changes a file of a session, and the file is its own
        cases hsaves with
        | refused hunusable => exact h.file id husable
        | failed husable' hspares =>
            exact (hspares _ (fileName_ne_temporaryName id id')).trans (h.file id husable)
        | @done d' husable' hallows hfile hspares =>
            show d'.get? (fileName id) = (if id' = id then some snapshot else kept id).map entryOf
            by_cases hid : id' = id
            · rw [if_pos hid, ← hid, hfile, Option.map_some, entryOf]
            · rw [if_neg hid, ← h.file id husable]
              exact hspares _ (fun hsame => hid (fileName_injective hsame).symm)
                (fileName_ne_temporaryName id id')
  short id snapshot hkept := by
    rcases saved_of_keep hkept with hbefore | ⟨fault, d', -, hsaved⟩
    · exact h.short id snapshot hbefore
    · exact short_of_saved hsaved
  reads id snapshot hkept := by
    rcases saved_of_keep hkept with hbefore | ⟨fault, d', hrequest, -⟩
    · exact h.reads id snapshot hbefore
    · exact hreads id snapshot fault hrequest

/-- Any number of requests. -/
theorem Holds.run {kept : SessionId → Option Snapshot} {d : Directory} (h : Holds kept d)
    {requests : List Request}
    (hreads : ∀ id snapshot fault, Request.save id snapshot fault ∈ requests →
      ReadsBack snapshot) :
    Holds (fun id => (run d requests).1.foldl (keep id) (kept id)) (run d requests).2 := by
  induction requests generalizing kept d with
  | nil => exact h
  | cons request rest ih =>
      have hserved := h.serve fun id snapshot fault hrequest =>
        hreads id snapshot fault (List.mem_cons.mpr (.inl hrequest.symm))
      exact ih hserved fun id snapshot fault hmem =>
        hreads id snapshot fault (List.mem_cons_of_mem _ hmem)

/-- The store is a map of sessions behind this log. -/
structure IsMap (log : List (Request × Reply)) (d : Directory) : Prop where
  /-- A load gives the snapshot of the last save of the session that succeeded. -/
  loads : ∀ id, isUsable id = true → IsShort id → load d id = .ok (lastSaved id log)
  /-- A session with a longer name has no snapshot, and the medium may say so by failing. -/
  longLoads : ∀ id, isUsable id = true → ¬ IsShort id →
    load d id = .ok none ∨ ∃ detail, load d id = .error (.io detail)
  /-- It is never saved. -/
  longSaves : ∀ id, isUsable id = true → ¬ IsShort id →
    ∀ fault snapshot, (saveUnless fault d id snapshot).1 = .error failed
  /-- A save that fails shows in no load. -/
  failed : ∀ fault id snapshot e d', saveUnless fault d id snapshot = (.error e, d') →
    ∀ id', IsShort id' → load d' id' = load d id'
  /-- A save that succeeds shows in no load of another session. -/
  saved : ∀ fault id snapshot d', saveUnless fault d id snapshot = (.ok (), d') →
    ∀ id', id' ≠ id → IsShort id' → load d' id' = load d id'
  /-- Any other name is refused, whatever the directory and the medium are like. -/
  refused : ∀ id, isUsable id = false → ∀ d', load d' id = .error (refusal id) ∧
    ∀ fault snapshot, saveUnless fault d' id snapshot = (.error (refusal id), d')

/-- Whatever loads and saves come in whatever order, and however the medium fails the saves: a store
whose directory has no files of sessions yet is a map of sessions, if what is saved reads back. -/
theorem files_keep_last_saves {d : Directory}
    (hnew : ∀ id, isUsable id = true → d.get? (fileName id) = none) {requests : List Request}
    (hreads : ∀ id snapshot fault, Request.save id snapshot fault ∈ requests →
      ReadsBack snapshot) :
    IsMap (run d requests).1 (run d requests).2 := by
  have hempty : Holds (fun _ => none) d :=
    ⟨fun id husable => hnew id husable, fun _ _ h => (nomatch h), fun _ _ h => (nomatch h)⟩
  have hholds : Holds (fun id => lastSaved id (run d requests).1) (run d requests).2 :=
    hempty.run hreads
  refine ⟨fun id husable hshort => ?_, fun id husable hlong => ?_,
    fun id husable hlong fault snapshot => ?_,
    fun fault id snapshot e d' h id' hshort => load_after_failed h hshort,
    fun fault id snapshot d' h id' hother hshort => load_of_other h hother hshort,
    fun id hunusable d' => ⟨load_of_unusable hunusable d', fun fault snapshot =>
      saveUnless_of_unusable hunusable fault d' snapshot⟩⟩
  · exact load_of_entry husable hshort (hholds.reads id) (hholds.file id husable)
  · refine load_of_long husable ?_
    rw [hholds.file id husable, Option.map_eq_none_iff]
    exact Option.eq_none_iff_forall_ne_some.mpr fun s hs => hlong (hholds.short id s hs)
  · have hsaves := saves_saveUnless fault (run d requests).2 id snapshot
    cases hsaved : saveUnless fault (run d requests).2 id snapshot with
    | mk result d' =>
    rw [hsaved] at hsaves
    cases hsaves with
    | refused hunusable => rw [husable] at hunusable; cases hunusable
    | failed husable' hspares => rfl
    | done husable' hallows hfile hspares => exact (hlong (short_of_saved hsaved)).elim

/-! ## Three sessions -/

namespace Sample

/-- A snapshot with one turn. -/
def greeting : Snapshot :=
  ⟨[.user "hi" (.ofMillis 1704067200000 1)], []⟩

theorem encode_greeting : greeting.encode = .object
    [("turns", .array [.object [("role", .string "user"), ("content", .string "hi"),
      ("timestamp", .string "2024-01-01T00:00:00.000000001Z")]]), ("records", .array [])] := by
  decide +kernel

/-- A text that reads as a value, as one can see by running the reader. -/
theorem of_toOption {α ε : Type} {e : Except ε α} {a : α} (h : e.toOption = some a) :
    e = .ok a := by
  cases e with
  | error e => cases h
  | ok a' => exact congrArg Except.ok (Option.some.inj h)

/-- The snapshot as it is written. -/
def greetingText : String :=
  "\x7b\n  \"turns\": [\n    \x7b\n      \"role\": \"user\",\n      \"content\": \"hi\",\n"
    ++ "      \"timestamp\": \"2024-01-01T00:00:00.000000001Z\"\n    \x7d\n  ],\n"
    ++ "  \"records\": []\n\x7d"

theorem pretty_greeting : greeting.encode.pretty = greetingText := by
  rw [encode_greeting]
  simp only [Json.Value.pretty, Json.write, Json.writeMembers, Json.writeItems, Json.quote,
    String.foldl_eq_foldl_toList]
  decide +kernel

theorem readsBack_greeting : ReadsBack greeting := by
  unfold ReadsBack
  rw [pretty_greeting]
  exact of_toOption (by decide +kernel)

/-- One session is saved, then two saves fail: one of another session, whose temporary file is
written, and one of the same session, whose temporary file is torn. -/
def requests : List Request :=
  [.save ⟨"a"⟩ greeting none, .save ⟨"b"⟩ greeting (some .rename),
    .save ⟨"a"⟩ greeting (some (.write (some ⟨#[0]⟩))), .save ⟨"../c"⟩ greeting none]

end Sample

/-- After these saves the first session has its snapshot, and the second one has none. -/
theorem files_keep_last_saves_sample :
    IsMap (run none Sample.requests).1 (run none Sample.requests).2 ∧
      lastSaved ⟨"a"⟩ (run none Sample.requests).1 = some Sample.greeting ∧
      lastSaved ⟨"b"⟩ (run none Sample.requests).1 = none := by
  have hreads : ∀ id snapshot fault, Request.save id snapshot fault ∈ Sample.requests →
      ReadsBack snapshot := by
    intro id snapshot fault hmem
    simp only [Sample.requests, List.mem_cons, List.not_mem_nil, or_false,
      Request.save.injEq] at hmem
    have hsnapshot : snapshot = Sample.greeting := by
      rcases hmem with h | h | h | h <;> exact h.2.1
    exact hsnapshot ▸ Sample.readsBack_greeting
  refine ⟨files_keep_last_saves (fun _ _ => rfl) hreads, ?_, ?_⟩
  · decide +kernel
  · decide +kernel

theorem isUsable_ofList {letters : List Char} (hnonempty : letters.isEmpty = false)
    (h : (letters.all fun c => c.isAlphanum || c == '-' || c == '_') = true) :
    isUsable ⟨String.ofList letters⟩ = true := by
  have hsome : (String.ofList letters).isEmpty = false := by
    rw [Bool.eq_false_iff, ne_eq, String.isEmpty_iff, String.ofList_eq_empty_iff]
    rintro rfl
    cases hnonempty
  rw [isUsable, hsome, String.toList_ofList, h]
  rfl

/-- A name that is one letter too long for a file. -/
def Sample.longName : SessionId :=
  ⟨String.ofList (List.replicate 251 'a')⟩

theorem Sample.isUsable_longName : isUsable longName = true :=
  isUsable_ofList (by decide +kernel) (by decide +kernel)

/-- Nothing is saved of the session with the long name, and once another session is saved, a load of
it fails. -/
theorem long_name_fails_load :
    load none Sample.longName = .ok none ∧
      (saveUnless none none ⟨"a"⟩ default).1 = .ok () ∧
      load (saveUnless none none ⟨"a"⟩ default).2 Sample.longName =
        .error (.io "the name is too long") := by
  refine ⟨?_, rfl, ?_⟩
  · exact load_of_absent Sample.isUsable_longName (by decide +kernel) rfl
  · exact load_of_disallowed Sample.isUsable_longName (by decide +kernel)

end AgentSessions.FileStore
