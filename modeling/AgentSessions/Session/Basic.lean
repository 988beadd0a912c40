import AgentSessions.History.Snapshot
import AgentSessions.Session.Quota

/-!
# Sessions

A conversation in memory: its history, its audit trail and the counts of its tool calls. What is
kept of it between runs is its snapshot; the counts over the session are found again from the
audit trail.
-/

set_option autoImplicit false

namespace AgentSessions

structure Session where
  id : SessionId
  turns : List Turn
  records : List CallRecord
  counts : QuotaCounts
  deriving DecidableEq

namespace Session

def empty (id : SessionId) : Session :=
  ⟨id, [], [], .none⟩

def ofSnapshot (id : SessionId) (s : Snapshot) : Session :=
  ⟨id, s.turns, s.records, .ofRecords s.records⟩

/-- What is kept of the session. -/
def snapshot (s : Session) : Snapshot :=
  ⟨s.turns, s.records⟩

def addTurn (s : Session) (turn : Turn) : Session :=
  { s with turns := s.turns ++ [turn] }

def addRecord (s : Session) (record : CallRecord) : Session :=
  { s with records := s.records ++ [record] }

def clear (s : Session) : Session :=
  empty s.id

end Session

end AgentSessions
