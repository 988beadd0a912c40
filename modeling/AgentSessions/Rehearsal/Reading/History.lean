import AgentSessions.History.Snapshot
import AgentSessions.Json.Lookup

/-!
# Histories described in JSON

Turns and records are read as they are stored, but for the time: where it is left out, it is the
start of time of a simulation.
-/

set_option autoImplicit false

namespace AgentSessions.Rehearsal.Reading

open Json (Value)

/-- The time of what has none. -/
def defaultTime : String × Value := ("timestamp", .string "2024-01-01T00:00:00Z")

def stamped (v : Value) : Value :=
  if v.has "timestamp" then v
  else .object (v.members.filter (fun m => m.1 != "timestamp") ++ [defaultTime])

def turns? (v : Value) : Option (List Turn) :=
  v.items.mapM fun turn => (stamped turn).read? Turn.decoder

def records? (v : Value) : Option (List CallRecord) :=
  v.items.mapM fun record => (stamped record).read? CallRecord.decoder

/-- A snapshot, of which both parts may be left out. -/
def snapshot? (v : Value) : Option Snapshot := do
  some ⟨← turns? (v.get "turns"), ← records? (v.get "records")⟩

def calls? (v : Value) : Option (List ToolCall) :=
  v.items.mapM fun call => call.read? ToolCall.decoder

end AgentSessions.Rehearsal.Reading
