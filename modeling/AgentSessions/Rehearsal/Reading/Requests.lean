import AgentSessions.Json.Lookup
import AgentSessions.Orchestration.Office

/-!
# Requests described in JSON

What somebody wants of an office: tasks, lists of tasks and prompts. What is left out has a plain
default.
-/

set_option autoImplicit false

namespace AgentSessions.Rehearsal.Reading

open Json (Decoder Value)

def taskFilter? (v : Value) : Option TaskFilter := do
  let state ← (v.get "state").readOr (Decoder.map some TaskState.decoder) none
  some ⟨state, (v.text? "parent").map .mk⟩

def taskRequest? (v : Value) : Option TaskRequest := do
  some
    { description := ← v.text? "description"
      agentType := v.textOr "agentType" "general"
      priority := ← (v.get "priority").readOr Priority.decoder default
      parentSession := (v.text? "parent").map .mk
      autoStart := v.get "autoStart" != .bool false
      depth := ← (v.get "depth").readOr Decoder.uint32 1 }

def incoming? (v : Value) : Option Incoming := do
  some
    { session := ⟨v.textOr "session" "s1"⟩
      prompt := ← v.text? "prompt"
      priority := ← (v.get "priority").readOr Priority.decoder default
      queueIfBusy := v.get "queue" != .bool false }

/-! ## Bytes -/

def hexDigit? (c : Char) : Option Nat :=
  if c.isDigit then some (c.toNat - '0'.toNat)
  else if 'a' ≤ c ∧ c ≤ 'f' then some (c.toNat - 'a'.toNat + 10)
  else none

/-- Bytes that are written as pairs of hexadecimal digits. -/
def bytes? : List Char → Option (List UInt8)
  | [] => some []
  | high :: low :: rest => do
      let byte := 16 * (← hexDigit? high) + (← hexDigit? low)
      some (UInt8.ofNat byte :: (← bytes? rest))
  | [_] => none

end AgentSessions.Rehearsal.Reading
