import AgentSessions.History.Turn

/-!
# The audit trail

Every call of a tool that a model asked for leaves a record of how it was settled.
-/

set_option autoImplicit false

namespace AgentSessions

open Json (Decoder Record Value Object)

/-- How a call was settled. -/
inductive CallOutcome where
  | succeeded
  | failed
  | denied
  | quotaExceeded
  | cancelled
  deriving DecidableEq, Repr, Inhabited

namespace CallOutcome

def name : CallOutcome → String
  | succeeded => "succeeded"
  | failed => "failed"
  | denied => "denied"
  | quotaExceeded => "quota_exceeded"
  | cancelled => "cancelled"

def names : List (String × CallOutcome) :=
  [succeeded, failed, denied, quotaExceeded, cancelled].map fun o => (o.name, o)

/-- Whether the tool ran to its end. -/
def executed : CallOutcome → Bool
  | succeeded | failed => true
  | _ => false

def encode (o : CallOutcome) : Value := .string o.name

def decoder : Decoder CallOutcome := Decoder.oneOf names

end CallOutcome

structure CallRecord where
  toolName : String
  arguments : Object
  /-- The step of the run, counted from one. -/
  step : UInt32
  outcome : CallOutcome
  timestamp : Instant
  deriving DecidableEq

namespace CallRecord

def executed (r : CallRecord) : Bool :=
  r.outcome.executed

def encode (r : CallRecord) : Value :=
  Value.record
    [Value.field "toolName" (.string r.toolName), Value.field "arguments" r.arguments.toValue,
      Value.field "step" (.nat r.step.toNat), Value.field "outcome" r.outcome.encode,
      Value.field "timestamp" r.timestamp.encode]

def decoder : Decoder CallRecord := Record.decoder <|
  mk <$> Record.field "toolName" Decoder.string
    <*> Record.field "arguments" Decoder.object
    <*> Record.field "step" Decoder.uint32
    <*> Record.field "outcome" CallOutcome.decoder
    <*> Record.field "timestamp" Instant.decoder

end CallRecord

end AgentSessions
