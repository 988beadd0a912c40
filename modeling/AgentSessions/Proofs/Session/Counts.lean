import AgentSessions.Proofs.Dict
import AgentSessions.Session.Basic

/-!
# Counts and the audit trail

A session counts the calls of every tool twice, in the current run and in all, and its audit trail
tells the same story: `CallRecord.timesRun` reads the number of calls that ran to their end off the
records. The counts that are found again from an audit trail are these numbers, and a quota stands
against a call exactly when one of the two numbers has reached its limit.
-/

set_option autoImplicit false

namespace AgentSessions

/-- How many of the records are of calls of a tool that ran to their end. -/
def CallRecord.timesRun (tool : String) (records : List CallRecord) : Nat :=
  records.countP fun r => r.executed && r.toolName == tool

theorem CallRecord.timesRun_append (tool : String) (records more : List CallRecord) :
    timesRun tool (records ++ more) = timesRun tool records + timesRun tool more :=
  List.countP_append

theorem CallRecord.timesRun_cons (tool : String) (r : CallRecord) (rest : List CallRecord) :
    timesRun tool (r :: rest) =
      timesRun tool rest + if r.executed = true ∧ r.toolName = tool then 1 else 0 := by
  unfold timesRun
  rw [List.countP_cons]
  simp

theorem CallRecord.timesRun_executed (tool : String) {r : CallRecord} (h : r.executed = true) :
    timesRun tool [r] = if tool = r.toolName then 1 else 0 := by
  rw [timesRun_cons]
  simp [h, timesRun, eq_comm]

theorem CallRecord.timesRun_not_executed (tool : String) {r : CallRecord}
    (h : r.executed = false) : timesRun tool [r] = 0 := by
  rw [timesRun_cons]
  simp [h, timesRun]

theorem CallRecord.timesRun_filter (tool : String) (records : List CallRecord) :
    timesRun tool (records.filter executed) = timesRun tool records := by
  unfold timesRun
  rw [List.countP_filter]
  congr 1
  funext r
  cases r.executed <;> simp

/-- One of the two limits of the quota is reached when a tool ran so often in the run and in the
session. -/
def ToolQuota.Reached (quota : ToolQuota) (inTurn inSession : Nat) : Prop :=
  (∃ limit, quota.perTurn = some limit ∧ limit.toNat ≤ inTurn) ∨
    ∃ limit, quota.perSession = some limit ∧ limit.toNat ≤ inSession

namespace QuotaCounts

/-! ## Counting -/

theorem getD_increment (counts : Dict Nat) (tool tool' : String) :
    ((increment counts tool).get? tool').getD 0 =
      (counts.get? tool').getD 0 + if tool' = tool then 1 else 0 := by
  unfold increment Dict.alter
  rw [Dict.get?_insert]
  by_cases h : tool' = tool
  · rw [if_pos h, if_pos h, h]
    rfl
  · rw [if_neg h, if_neg h, Nat.add_zero]

@[simp] theorem inTurn_record (c : QuotaCounts) (tool tool' : String) :
    (c.record tool).inTurn tool' = c.inTurn tool' + if tool' = tool then 1 else 0 :=
  getD_increment c.turn tool tool'

@[simp] theorem inSession_record (c : QuotaCounts) (tool tool' : String) :
    (c.record tool).inSession tool' = c.inSession tool' + if tool' = tool then 1 else 0 :=
  getD_increment c.session tool tool'

@[simp] theorem inTurn_startRun (c : QuotaCounts) (tool : String) : c.startRun.inTurn tool = 0 :=
  rfl

@[simp] theorem inSession_startRun (c : QuotaCounts) (tool : String) :
    c.startRun.inSession tool = c.inSession tool :=
  rfl

@[simp] theorem inTurn_none (tool : String) : none.inTurn tool = 0 :=
  rfl

@[simp] theorem inSession_none (tool : String) : none.inSession tool = 0 :=
  rfl

/-! ## Counts that are found again -/

@[simp] theorem inTurn_ofRecords (records : List CallRecord) (tool : String) :
    (ofRecords records).inTurn tool = 0 :=
  rfl

theorem getD_foldl_increment (tool : String) (records : List CallRecord) (counts : Dict Nat)
    (hran : ∀ r ∈ records, r.executed = true) :
    ((records.foldl (fun d r => increment d r.toolName) counts).get? tool).getD 0 =
      (counts.get? tool).getD 0 + CallRecord.timesRun tool records := by
  induction records generalizing counts with
  | nil => rfl
  | cons r rest ih =>
      have hrest := ih (increment counts r.toolName) fun r' hr' =>
        hran r' (List.mem_cons_of_mem _ hr')
      have hr : r.executed = true := hran r List.mem_cons_self
      rw [List.foldl_cons, hrest, getD_increment, CallRecord.timesRun_cons]
      by_cases htool : tool = r.toolName
      · rw [if_pos htool, if_pos ⟨hr, htool.symm⟩]
        omega
      · rw [if_neg htool, if_neg fun h => htool h.2.symm]
        omega

@[simp] theorem inSession_ofRecords (records : List CallRecord) (tool : String) :
    (ofRecords records).inSession tool = CallRecord.timesRun tool records := by
  have hran : ∀ r ∈ records.filter CallRecord.executed, r.executed = true :=
    fun r hr => (List.mem_filter.mp hr).2
  have hfold := getD_foldl_increment tool (records.filter CallRecord.executed) .empty hran
  calc (ofRecords records).inSession tool
    _ = 0 + CallRecord.timesRun tool (records.filter CallRecord.executed) := hfold
    _ = CallRecord.timesRun tool records := by rw [Nat.zero_add, CallRecord.timesRun_filter]

/-! ## Counts along an audit trail -/

/-- The counts `c'` are `c` with the calls of these records. -/
def Advances (c : QuotaCounts) (records : List CallRecord) (c' : QuotaCounts) : Prop :=
  ∀ tool, c'.inTurn tool = c.inTurn tool + CallRecord.timesRun tool records ∧
    c'.inSession tool = c.inSession tool + CallRecord.timesRun tool records

theorem advances_nil (c : QuotaCounts) : c.Advances [] c :=
  fun _ => ⟨rfl, rfl⟩

theorem advances_record (c : QuotaCounts) {r : CallRecord} (h : r.executed = true) :
    c.Advances [r] (c.record r.toolName) := by
  intro tool
  rw [CallRecord.timesRun_executed tool h]
  exact ⟨inTurn_record c r.toolName tool, inSession_record c r.toolName tool⟩

theorem advances_same (c : QuotaCounts) {r : CallRecord} (h : r.executed = false) :
    c.Advances [r] c := by
  intro tool
  rw [CallRecord.timesRun_not_executed tool h]
  exact ⟨rfl, rfl⟩

theorem Advances.append {c c' c'' : QuotaCounts} {records more : List CallRecord}
    (h : c.Advances records c') (h' : c'.Advances more c'') : c.Advances (records ++ more) c'' := by
  intro tool
  have hfirst := h tool
  have hthen := h' tool
  rw [CallRecord.timesRun_append]
  omega

/-! ## Limits -/

theorem reached_eq_none_iff {scope : QuotaScope} {count : Nat} {limit : Option UInt32} :
    reached scope count limit = .none ↔ ¬∃ n, limit = some n ∧ n.toNat ≤ count := by
  cases limit with
  | none => simp [reached]
  | some n =>
      unfold reached
      by_cases h : n.toNat ≤ count <;> simp [h]

/-- Nothing stands against a call when neither limit is reached. -/
theorem check_eq_none_iff {c : QuotaCounts} {tool : String} {quota : ToolQuota} :
    c.check tool quota = .none ↔ ¬quota.Reached (c.inTurn tool) (c.inSession tool) := by
  unfold check ToolQuota.Reached
  rw [Option.or_eq_none_iff, reached_eq_none_iff, reached_eq_none_iff, not_or]

theorem checkWith_eq_none_iff {c : QuotaCounts} {tool : String} {settings : EngineSettings} :
    c.checkWith tool settings = .none ↔
      ¬(settings.quotaFor tool).Reached (c.inTurn tool) (c.inSession tool) :=
  check_eq_none_iff

theorem reached_of_checkWith {c : QuotaCounts} {tool : String} {settings : EngineSettings}
    {exceeded : QuotaExceeded} (h : c.checkWith tool settings = some exceeded) :
    (settings.quotaFor tool).Reached (c.inTurn tool) (c.inSession tool) := by
  refine Classical.byContradiction fun hroom => ?_
  rw [checkWith_eq_none_iff.mpr hroom] at h
  cases h

end QuotaCounts

end AgentSessions
