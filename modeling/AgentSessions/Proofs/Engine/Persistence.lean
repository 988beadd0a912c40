import AgentSessions.Proofs.Engine.Runs

/-!
# What is stored of a run

Of the saves of a run only the last one can fail, for a run that cannot save its session ends at
once, and one that was stopped saves once more and ends too. So when a run is over, the store holds
the session as the run left it, or the last save failed and the store holds what it held before
(`Engine.Agrees`). And each snapshot that a run means to save has all turns and records of the one
before.
-/

set_option autoImplicit false

namespace AgentSessions

/-- The turns and the records of the one are the first ones of the other. -/
structure Snapshot.Grows (a b : Snapshot) : Prop where
  turns : a.turns <+: b.turns
  records : a.records <+: b.records

theorem Snapshot.Grows.trans {a b c : Snapshot} (h : a.Grows b) (h' : b.Grows c) : a.Grows c :=
  ⟨h.turns.trans h'.turns, h.records.trans h'.records⟩

/-- What is stored after an exchange. A save that fails leaves the store as it was. -/
def StoreMark.keep (stored : Option Snapshot) : StoreMark → Option Snapshot
  | saved snapshot => some snapshot
  | failed _ _ => stored
  | stopped => stored

namespace Engine

/-- What is stored after exchanges. -/
def stored (initial : Option Snapshot) (trace : List Exchange) : Option Snapshot :=
  (trace.filterMap Exchange.storeMark?).foldl StoreMark.keep initial

/-- The snapshots that were to be saved. -/
def attempts (trace : List Exchange) : List Snapshot :=
  (trace.filterMap Exchange.storeMark?).filterMap StoreMark.snapshot?

/-- Every save succeeded. -/
def AllSaved (trace : List Exchange) : Prop :=
  ∀ snapshot e, (⟨.save snapshot, .error e⟩ : Exchange) ∉ trace

/-- The token was tripped, or the model failed. -/
def Stopped (trace : List Exchange) : Prop :=
  .stopped ∈ trace.filterMap Exchange.storeMark?

/-! ## Marks and exchanges -/

theorem storeMark?_failed {x : Exchange} {snapshot : Snapshot} {e : StoreError}
    (h : x.storeMark? = some (.failed snapshot e)) : x = ⟨.save snapshot, .error e⟩ := by
  unfold Exchange.storeMark? at h
  split at h
  all_goals cases h
  rfl

theorem allSaved_of_not_mem {trace : List Exchange}
    (h : ∀ snapshot e, .failed snapshot e ∉ trace.filterMap Exchange.storeMark?) :
    AllSaved trace := by
  intro snapshot e hmem
  exact h snapshot e (List.mem_filterMap.mpr ⟨_, hmem, rfl⟩)

/-- The exchange that left the last mark. -/
theorem exists_split_of_failed {trace : List Exchange} {ms : List StoreMark} {snapshot : Snapshot}
    {e : StoreError} (h : trace.filterMap Exchange.storeMark? = ms ++ [.failed snapshot e]) :
    ∃ before after, trace = before ++ ⟨.save snapshot, .error e⟩ :: after ∧
      before.filterMap Exchange.storeMark? = ms ∧ after.filterMap Exchange.storeMark? = [] := by
  obtain ⟨front, back, rfl, hfront, hback⟩ := List.filterMap_eq_append_iff.mp h
  obtain ⟨skipped, x, after, rfl, hskipped, hx, hafter⟩ := List.filterMap_eq_cons_iff.mp hback
  refine ⟨front ++ skipped, after, ?_, ?_, hafter⟩
  · rw [storeMark?_failed hx, List.append_assoc]
  · rw [List.filterMap_append, hfront, List.filterMap_eq_nil_iff.mpr hskipped, List.append_nil]

theorem attempts_eq_nil {trace : List Exchange}
    (h : trace.filterMap Exchange.storeMark? = []) : attempts trace = [] := by
  rw [attempts, h, List.filterMap_nil]

/-- An element that is not in the front of a list can only be its last one. -/
theorem last_of_append_cons {α : Type} {front before after : List α} {x y : α}
    (h : front ++ [x] = before ++ y :: after) (hy : y ∉ front) :
    before = front ∧ y = x ∧ after = [] := by
  rcases List.eq_nil_or_concat after with rfl | ⟨rest, z, rfl⟩
  · obtain ⟨rfl, hxy⟩ := List.append_inj' h rfl
    exact ⟨rfl, (List.cons.inj hxy).1.symm, rfl⟩
  -- something stands behind `y`, so `y` is in front of the last element
  · rw [List.concat_eq_append, ← List.cons_append, ← List.append_assoc] at h
    obtain ⟨rfl, -⟩ := List.append_inj' h rfl
    exact absurd (List.mem_append_right _ List.mem_cons_self) hy

/-! ## The marks of a whole run -/

/-- The marks of saves that succeeded. -/
def allKept (kept : List Snapshot) : List StoreMark :=
  kept.map .saved

theorem not_mem_allKept_failed (kept : List Snapshot) (snapshot : Snapshot) (e : StoreError) :
    .failed snapshot e ∉ allKept kept := by
  intro hmem
  obtain ⟨s, -, heq⟩ := List.mem_map.mp hmem
  cases heq

/-- The marks of a run, by the way in which it ends: all saves but the last succeeded. -/
inductive Closes : List StoreMark → Conclusion → Prop where
  | finished {s : Session} {result : Except RunError RunSummary} (kept : List Snapshot) :
      Finishes result → Closes (allKept kept ++ [.saved s.snapshot]) (s, result)
  | stopped {s : Session} {result : Except RunError RunSummary} (kept : List Snapshot) :
      Stops result → Closes (allKept kept ++ [.stopped] ++ [.saved s.snapshot]) (s, result)
  | stoppedUnsaved {s : Session} {result : Except RunError RunSummary} (kept : List Snapshot)
      (e : StoreError) : Stops result →
      Closes (allKept kept ++ [.stopped] ++ [.failed s.snapshot e]) (s, result)
  | unsaved {s : Session} (kept : List Snapshot) (e : StoreError) :
      Closes (allKept kept ++ [.failed s.snapshot e]) (s, .error (.save e))

theorem Closes.cons {ms : List StoreMark} {c : Conclusion} (h : Closes ms c)
    (snapshot : Snapshot) : Closes (.saved snapshot :: ms) c := by
  cases h with
  | finished kept hresult => exact .finished (snapshot :: kept) hresult
  | stopped kept hresult => exact .stopped (snapshot :: kept) hresult
  | stoppedUnsaved kept e hresult => exact .stoppedUnsaved (snapshot :: kept) e hresult
  | unsaved kept e => exact .unsaved (snapshot :: kept) e

theorem Goes.closes {s : Session} {ms : List StoreMark} {c : Conclusion} (h : Goes s ms c) :
    Closes ms c := by
  induction h with
  | step _ _ ih => exact ih.cons _
  | unsaved e _ => exact .unsaved [] e
  | finished _ hresult => exact .finished [] hresult
  | stopped _ hresult => exact .stopped [] hresult
  | stoppedUnsaved e _ hresult => exact .stoppedUnsaved [] e hresult

theorem grows_of_extends {s s' : Session} (h : s.Extends s') : s.snapshot.Grows s'.snapshot :=
  ⟨h.turns_prefix, h.records⟩

theorem Goes.grows {s : Session} {ms : List StoreMark} {c : Conclusion} (h : Goes s ms c) :
    (s.snapshot :: ms.filterMap StoreMark.snapshot?).Pairwise Snapshot.Grows := by
  induction h with
  | step hextends _ ih =>
      have hgrows := grows_of_extends hextends
      refine .cons (fun b hb => ?_) ih
      rcases List.mem_cons.mp hb with rfl | hb
      · exact hgrows
      · exact hgrows.trans (List.rel_of_pairwise_cons ih hb)
  | unsaved e hextends => exact List.pairwise_pair.mpr (grows_of_extends hextends)
  | finished hextends _ => exact List.pairwise_pair.mpr (grows_of_extends hextends)
  | stopped hextends _ => exact List.pairwise_pair.mpr (grows_of_extends hextends)
  | stoppedUnsaved e hextends _ => exact List.pairwise_pair.mpr (grows_of_extends hextends)

/-! ## What is stored when a run is over -/

/-- What is stored agrees with the result of a run and the session that it leaves, where `initial`
was stored before. -/
structure Agrees (initial : Option Snapshot) (trace : List Exchange) (session : Session)
    (result : Except RunError RunSummary) : Prop where
  finished : Finishes result →
    AllSaved trace ∧ stored initial trace = some session.snapshot
  /-- A run that is stopped may fail to save its session at the last, and then nothing is stored
  beyond what was stored before. -/
  stopped : Stops result →
    (AllSaved trace ∧ stored initial trace = some session.snapshot) ∨
      ∃ before e after, trace = before ++ ⟨.save session.snapshot, .error e⟩ :: after ∧
        AllSaved before ∧ attempts after = [] ∧ stored initial trace = stored initial before
  /-- A save that fails in a run that was not stopped ends it. -/
  unsaved : ∀ before snapshot e after, trace = before ++ ⟨.save snapshot, .error e⟩ :: after →
    ¬Stopped before → result = .error (.save e) ∧ (RunError.save e).category = "agent_execution" ∧
      snapshot = session.snapshot ∧ attempts after = []
  /-- There are no other results. -/
  known : Finishes result ∨ Stops result ∨ ∃ e, result = .error (.save e)

theorem stored_of_append {trace : List Exchange} {ms : List StoreMark} {mark : StoreMark}
    (h : trace.filterMap Exchange.storeMark? = ms ++ [mark]) (initial : Option Snapshot) :
    stored initial trace = mark.keep (ms.foldl StoreMark.keep initial) := by
  rw [stored, h, List.foldl_append]
  rfl

/-- A save that failed left the last mark, when the marks before that are of other kinds. -/
theorem failed_last {trace before after : List Exchange} {front : List StoreMark} {mark : StoreMark}
    {snapshot : Snapshot} {e : StoreError}
    (hms : trace.filterMap Exchange.storeMark? = front ++ [mark])
    (hfront : .failed snapshot e ∉ front)
    (htrace : trace = before ++ ⟨.save snapshot, .error e⟩ :: after) :
    before.filterMap Exchange.storeMark? = front ∧ .failed snapshot e = mark ∧
      attempts after = [] := by
  have hfailed : Exchange.storeMark? ⟨.save snapshot, .error e⟩ = some (.failed snapshot e) := rfl
  rw [htrace, List.filterMap_append, List.filterMap_cons_some hfailed] at hms
  obtain ⟨hbefore, hmark, hafter⟩ := last_of_append_cons hms.symm hfront
  exact ⟨hbefore, hmark, attempts_eq_nil hafter⟩

theorem Finishes.not_stops {result : Except RunError RunSummary} (h : Finishes result) :
    ¬Stops result := by
  rintro (rfl | ⟨e, rfl⟩)
  · rcases h with ⟨summary, h⟩ | ⟨limit, text, h⟩ <;> cases h
  · rcases h with ⟨summary, h⟩ | ⟨limit, text, h⟩ <;> cases h

theorem not_finishes_save (e : StoreError) : ¬Finishes (.error (.save e)) := by
  rintro (⟨summary, h⟩ | ⟨limit, text, h⟩) <;> cases h

theorem not_stops_save (e : StoreError) : ¬Stops (.error (.save e)) := by
  rintro (h | ⟨e, h⟩) <;> cases h

theorem not_mem_stopped_failed (kept : List Snapshot) (snapshot : Snapshot) (e : StoreError) :
    .failed snapshot e ∉ allKept kept ++ [.stopped] := by
  intro hmem
  rcases List.mem_append.mp hmem with hmem | hmem
  · exact not_mem_allKept_failed kept snapshot e hmem
  · cases List.mem_singleton.mp hmem

theorem allSaved_of_eq {trace : List Exchange} {front : List StoreMark} {saved : Snapshot}
    (hms : trace.filterMap Exchange.storeMark? = front ++ [.saved saved])
    (hfront : ∀ snapshot e, .failed snapshot e ∉ front) : AllSaved trace := by
  refine allSaved_of_not_mem fun snapshot e hmem => ?_
  rw [hms] at hmem
  rcases List.mem_append.mp hmem with hmem | hmem
  · exact hfront snapshot e hmem
  · cases List.mem_singleton.mp hmem

theorem agrees_of_closes {trace : List Exchange} {session : Session}
    {result : Except RunError RunSummary}
    (h : Closes (trace.filterMap Exchange.storeMark?) (session, result))
    (initial : Option Snapshot) : Agrees initial trace session result := by
  generalize hms : trace.filterMap Exchange.storeMark? = ms at h
  cases h with
  | finished kept hresult =>
      have hkept := not_mem_allKept_failed kept
      refine ⟨fun _ => ⟨allSaved_of_eq hms hkept, stored_of_append hms initial⟩,
        fun hstops => absurd hstops hresult.not_stops, ?_, .inl hresult⟩
      intro before snapshot e after htrace _
      cases (failed_last hms (hkept snapshot e) htrace).2.1
  | stopped kept hresult =>
      have hkept := not_mem_stopped_failed kept
      refine ⟨fun hfinishes => absurd hresult hfinishes.not_stops,
        fun _ => .inl ⟨allSaved_of_eq hms hkept, stored_of_append hms initial⟩, ?_,
        .inr (.inl hresult)⟩
      intro before snapshot e after htrace _
      cases (failed_last hms (hkept snapshot e) htrace).2.1
  | stoppedUnsaved kept e hresult =>
      have hkept := not_mem_stopped_failed kept
      refine ⟨fun hfinishes => absurd hresult hfinishes.not_stops, fun _ => .inr ?_, ?_,
        .inr (.inl hresult)⟩
      · obtain ⟨before, after, htrace, hbefore, hafter⟩ := exists_split_of_failed hms
        refine ⟨before, e, after, htrace, ?_, attempts_eq_nil hafter, ?_⟩
        · refine allSaved_of_not_mem fun snapshot e' => ?_
          rw [hbefore]
          exact hkept snapshot e'
        · rw [stored_of_append hms, stored, hbefore]
          rfl
      · intro before snapshot e' after htrace hstopped
        obtain ⟨hbefore, -, -⟩ := failed_last hms (hkept snapshot e') htrace
        -- the save that failed came after the stop
        refine absurd ?_ hstopped
        rw [Stopped, hbefore]
        exact List.mem_append_right _ List.mem_cons_self
  | unsaved kept e =>
      have hkept := not_mem_allKept_failed kept
      refine ⟨fun h => absurd h (not_finishes_save e), fun h => absurd h (not_stops_save e), ?_,
        .inr (.inr ⟨e, rfl⟩)⟩
      intro before snapshot e' after htrace _
      obtain ⟨-, hmark, hafter⟩ := failed_last hms (hkept snapshot e') htrace
      cases hmark
      exact ⟨rfl, rfl, rfl, hafter⟩

/-- **What is stored agrees with what ran.** In every run, also in one that does not come to its
end, each snapshot that is to be saved has all turns and records of the ones before it, and all
records that the session had at first. A run that is answered or uses up its steps has saved
everything, and the session that it leaves is what is stored. So it is after a run that is cancelled
or whose model fails, unless the last save failed. Every other save that fails ends the run. -/
theorem store_agrees_with_run (setup : Setup) (session : Session) (prompt : String) :
    (∀ trace rest, (run setup session prompt).Leads trace rest →
      (attempts trace).Pairwise Snapshot.Grows ∧
        ∀ snapshot ∈ attempts trace, session.records <+: snapshot.records) ∧
      ∀ initial trace session' result,
        (run setup session prompt).Leads trace (.done (session', result)) →
        Agrees initial trace session' result := by
  constructor
  · intro trace rest hpath
    obtain ⟨more, c, hmore⟩ := rest.leads_done
    obtain ⟨s, hrecords, -, hgoes⟩ :=
      (leaves_run setup session prompt).of_leads (hpath.trans hmore)
    have hgrows := hgoes.grows
    rw [List.filterMap_append, List.filterMap_append] at hgrows
    -- what was to be saved so far is the front of what will have been saved at the end
    have hfront := List.sublist_append_left (attempts trace)
      ((more.filterMap Exchange.storeMark?).filterMap StoreMark.snapshot?)
    have hfirst := hgrows.sublist (hfront.cons_cons s.snapshot)
    refine ⟨hfirst.of_cons, fun snapshot hsnapshot => ?_⟩
    rw [← hrecords]
    exact (List.rel_of_pairwise_cons hfirst hsnapshot).records
  · intro initial trace session' result hpath
    obtain ⟨s, -, -, hgoes⟩ := (leaves_run setup session prompt).of_leads hpath
    exact agrees_of_closes hgoes.closes initial

/-- The model calls a tool, and the step is saved. Then the token is tripped, and the store is
full. -/
def refusing : Nat → (question : Ask) → question.Answer
  | _, .chat _ => some (.ok ⟨"", [look "a"], none⟩)
  | _, .execute _ _ _ => some (.ok "seen")
  | n, .isCancelled => decide (11 < n)
  | n, .save _ => if 11 < n then .error (.io "no space") else .ok ()
  | _, question => Dialogue.idleAnswer question

/-- What comes of a run whose last save fails. -/
def refusedRun : List Exchange × Conclusion :=
  (run .plain (.empty ⟨"s"⟩) "go on").play refusing 0

theorem store_agrees_with_refused_run :
    (run .plain (.empty ⟨"s"⟩) "go on").Leads refusedRun.1 (.done refusedRun.2) ∧
      refusedRun.2.2 = .error .cancelled ∧
      (attempts refusedRun.1).map (fun snapshot => snapshot.turns.length) = [3, 4] ∧
      (stored none refusedRun.1).map (fun snapshot => snapshot.turns.length) = some 3 ∧
      Agrees none refusedRun.1 refusedRun.2.1 refusedRun.2.2 := by
  have hpath := Dialogue.leads_play refusing 0 (run .plain (.empty ⟨"s"⟩) "go on")
  refine ⟨hpath, rfl, rfl, rfl, ?_⟩
  exact (store_agrees_with_run .plain (.empty ⟨"s"⟩) "go on").2 none _ _ _ hpath

end Engine

end AgentSessions
