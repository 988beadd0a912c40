import AgentSessions.Compaction.Basic
import AgentSessions.Session.Basic

/-!
# Histories without their clocks

Every turn and every record carries the time at which it was made. A `view` of time replaces every
instant by what is seen of it: the identity sees it as it is, a constant view sees nothing of the
clock, and others see the day or the order. Two histories are the same clock values aside when a
view shows them alike.

What a session does with its history does not depend on the clock: estimates, cuts, summaries,
transcripts and counts are the same under every view.
-/

set_option autoImplicit false

namespace AgentSessions

variable (view : Instant → Instant)

/-! ## Views of a history -/

/-- The turn as a view of time shows it. -/
def Turn.retime (t : Turn) : Turn :=
  { t with timestamp := view t.timestamp }

/-- The record as a view of time shows it. -/
def CallRecord.retime (r : CallRecord) : CallRecord :=
  { r with timestamp := view r.timestamp }

/-- The snapshot as a view of time shows it. -/
def Snapshot.retime (s : Snapshot) : Snapshot :=
  ⟨s.turns.map (Turn.retime view), s.records.map (CallRecord.retime view)⟩

/-- The session as a view of time shows it. -/
def Session.retime (s : Session) : Session :=
  { s with
    turns := s.turns.map (Turn.retime view)
    records := s.records.map (CallRecord.retime view) }

/-- A question to a model as a view of time shows it. -/
def ModelRequest.retime (r : ModelRequest) : ModelRequest :=
  { r with turns := r.turns.map (Turn.retime view) }

/-- Whoever sees the time as it is sees the history as it is. -/
@[simp] theorem Turn.retime_id : Turn.retime id = id :=
  rfl

@[simp] theorem CallRecord.retime_id : CallRecord.retime id = id :=
  rfl

@[simp] theorem Snapshot.retime_id (s : Snapshot) : s.retime id = s := by
  simp [retime]

@[simp] theorem session_retime_id (s : Session) : s.retime id = s := by
  simp [Session.retime]

@[simp] theorem ModelRequest.retime_id (r : ModelRequest) : r.retime id = r := by
  simp [retime]

/-! ## Sessions -/

namespace Session

@[simp] theorem retime_addTurn (s : Session) (t : Turn) :
    (s.addTurn t).retime view = (s.retime view).addTurn (t.retime view) := by
  simp [retime, addTurn]

@[simp] theorem retime_addRecord (s : Session) (r : CallRecord) :
    (s.addRecord r).retime view = (s.retime view).addRecord (r.retime view) := by
  simp [retime, addRecord]

end Session

/-- Counts are taken from the names and outcomes in the audit trail. -/
theorem QuotaCounts.ofRecords_retime (records : List CallRecord) :
    ofRecords (records.map (CallRecord.retime view)) = ofRecords records := by
  unfold ofRecords
  rw [List.filter_map, List.foldl_map]
  rfl

theorem Session.ofSnapshot_retime (id : SessionId) (s : Snapshot) :
    ofSnapshot id (s.retime view) = (ofSnapshot id s).retime view := by
  unfold ofSnapshot
  rw [Snapshot.retime, QuotaCounts.ofRecords_retime]
  rfl

/-! ## Estimates and cuts -/

theorem Tokens.ofTurns_retime (turns : List Turn) :
    ofTurns (turns.map (Turn.retime view)) = ofTurns turns := by
  unfold ofTurns
  rw [List.map_map]
  rfl

namespace Compaction

theorem beforeResults_retime (turns : List Turn) (split : Nat) :
    beforeResults (turns.map (Turn.retime view)) split = beforeResults turns split := by
  induction split with
  | zero => rfl
  | succ split ih =>
      unfold beforeResults
      rw [List.getElem?_map]
      cases turns[split + 1]? with
      | none => rfl
      | some turn =>
          show (if turn.isToolResult then beforeResults (turns.map _) split else split + 1) = _
          rw [ih]

theorem splitPoint_retime (settings : CompactionSettings) (turns : List Turn) :
    splitPoint settings (turns.map (Turn.retime view)) = splitPoint settings turns := by
  unfold splitPoint
  rw [List.length_map, beforeResults_retime]

theorem isFoldable_retime (turns : List Turn) :
    isFoldable (turns.map (Turn.retime view)) = isFoldable turns := by
  match turns with
  | [] => rfl
  | [_] => rfl
  | _ :: _ :: _ => rfl

theorem split?_retime (settings : CompactionSettings) (turns : List Turn) :
    split? settings (turns.map (Turn.retime view)) =
      (split? settings turns).map fun parts =>
        (parts.1.map (Turn.retime view), parts.2.map (Turn.retime view)) := by
  unfold split?
  dsimp only
  rw [splitPoint_retime, ← List.map_take, ← List.map_drop, isFoldable_retime]
  split
  · rfl
  · rfl

theorem isDue_retime (settings : CompactionSettings) (turns : List Turn) :
    isDue settings (turns.map (Turn.retime view)) = isDue settings turns := by
  unfold isDue
  rw [Tokens.ofTurns_retime, split?_retime, Option.isSome_map]

end Compaction

/-- The result of a compaction as a view of time shows it. -/
def CompactionResult.retime (r : CompactionResult) : CompactionResult :=
  { r with turns := r.turns.map (Turn.retime view) }

namespace Compaction

theorem unchanged_retime (turns : List Turn) :
    unchanged (turns.map (Turn.retime view)) = (unchanged turns).retime view := by
  unfold unchanged
  rw [Tokens.ofTurns_retime]
  rfl

theorem fold_retime (settings : CompactionSettings) (folded recent : List Turn)
    (summary : Option String) (now : Instant) :
    fold settings (folded.map (Turn.retime view)) (recent.map (Turn.retime view)) summary (view now)
      = (fold settings folded recent summary now).retime view := by
  have hturn : ∀ body, summaryTurn settings body (view now) =
      (summaryTurn settings body now).retime view := fun _ => rfl
  unfold fold
  dsimp only
  rw [List.length_map, hturn, ← List.map_append, ← List.map_cons, Tokens.ofTurns_retime,
    Tokens.ofTurns_retime]
  rfl

end Compaction

/-! ## Summaries -/

theorem Summary.byKeywords_retime (turns : List Turn) :
    byKeywords (turns.map (Turn.retime view)) = byKeywords turns := by
  have hrequests : requests (turns.map (Turn.retime view)) = requests turns := by
    unfold requests
    rw [List.filter_map, List.map_map]
    rfl
  have hearlier : earlier (turns.map (Turn.retime view)) = earlier turns := by
    unfold earlier
    rw [List.filter_map, List.map_map]
    rfl
  have hcalls : calls (turns.map (Turn.retime view)) = calls turns := by
    unfold calls
    rw [List.flatMap_map]
    rfl
  unfold byKeywords
  rw [hrequests, hearlier, hcalls, List.length_map]

theorem Transcript.ofTurns_retime (turns : List Turn) :
    ofTurns (turns.map (Turn.retime view)) = ofTurns turns := by
  unfold ofTurns render
  rw [List.flatMap_map]
  rfl

/-- A model that summarizes is asked about a transcript, which has no times in it. -/
theorem Summary.request_retime (turns : List Turn) (now : Instant) :
    request (turns.map (Turn.retime view)) (view now) = (request turns now).retime view := by
  unfold request
  rw [Transcript.ofTurns_retime]
  rfl

end AgentSessions
