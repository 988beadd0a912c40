import AgentSessions.History.CallRecord
import AgentSessions.Settings.Basic

/-!
# Quotas of tool calls

A session counts for every tool how often it ran, in the current run and in all. Only calls that
ran to their end count. A tool whose count has reached its limit must not run again.
-/

set_option autoImplicit false

namespace AgentSessions

inductive QuotaScope where
  | turn
  | session
  deriving DecidableEq, Repr

def QuotaScope.name : QuotaScope → String
  | turn => "turn"
  | session => "session"

/-- The quota that stands against a call. -/
structure QuotaExceeded where
  scope : QuotaScope
  limit : UInt32
  deriving DecidableEq, Repr

/-- How often each tool ran, in the current run and in the session. -/
structure QuotaCounts where
  turn : Dict Nat
  session : Dict Nat
  deriving DecidableEq

namespace QuotaCounts

def none : QuotaCounts := ⟨.empty, .empty⟩

def increment (counts : Dict Nat) (tool : String) : Dict Nat :=
  counts.alter tool fun n => n.getD 0 + 1

/-- The counts of a session with this audit trail, before its next run. -/
def ofRecords (records : List CallRecord) : QuotaCounts :=
  ⟨.empty, (records.filter CallRecord.executed).foldl (fun d r => increment d r.toolName) .empty⟩

def startRun (c : QuotaCounts) : QuotaCounts :=
  { c with turn := .empty }

def record (c : QuotaCounts) (tool : String) : QuotaCounts :=
  ⟨increment c.turn tool, increment c.session tool⟩

/-- How often a tool ran in the current run. -/
def inTurn (c : QuotaCounts) (tool : String) : Nat :=
  (c.turn.get? tool).getD 0

/-- How often a tool ran in the session. -/
def inSession (c : QuotaCounts) (tool : String) : Nat :=
  (c.session.get? tool).getD 0

/-- The limit that a count has reached. -/
def reached (scope : QuotaScope) (count : Nat) : Option UInt32 → Option QuotaExceeded
  | .none => .none
  | some limit => if limit.toNat ≤ count then some ⟨scope, limit⟩ else .none

/-- What stands against one more call of a tool; the limit of the run comes first. -/
def check (c : QuotaCounts) (tool : String) (quota : ToolQuota) : Option QuotaExceeded :=
  (reached .turn (c.inTurn tool) quota.perTurn).or
    (reached .session (c.inSession tool) quota.perSession)

def checkWith (c : QuotaCounts) (tool : String) (settings : EngineSettings) :
    Option QuotaExceeded :=
  c.check tool (settings.quotaFor tool)

end QuotaCounts

end AgentSessions
