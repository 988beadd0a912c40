import AgentSessions.History.CallRecord

/-!
# Snapshots

A snapshot is what is kept of a session: its turns and its audit trail.
-/

set_option autoImplicit false

namespace AgentSessions

open Json (Decoder Record Value)

/-- The persistent part of a session. -/
structure Snapshot where
  turns : List Turn
  records : List CallRecord
  deriving DecidableEq, Inhabited

namespace Snapshot

def isEmpty (s : Snapshot) : Bool :=
  s.turns.isEmpty && s.records.isEmpty

def encode (s : Snapshot) : Value :=
  Value.record
    [Value.field "turns" (.array (s.turns.map Turn.encode)),
      Value.field "records" (.array (s.records.map CallRecord.encode))]

/-- Decodes a snapshot; what is missing is empty. -/
def decoder : Decoder Snapshot := Record.decoder <|
  mk <$> Record.withDefault "turns" (Decoder.list Turn.decoder) []
    <*> Record.withDefault "records" (Decoder.list CallRecord.decoder) []

end Snapshot

end AgentSessions
