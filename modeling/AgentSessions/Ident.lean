import AgentSessions.Json.Decode

/-!
# Identifiers

Sessions, queued messages, tasks and tool calls have identifiers of their own types. A fresh one is
a prefix for its kind followed by a UUID of version 7: 48 bits of time in milliseconds, then a
counter, so that identifiers minted later sort later.
-/

set_option autoImplicit false

namespace AgentSessions

structure SessionId where
  text : String
  deriving DecidableEq, Repr, Inhabited

structure MessageId where
  text : String
  deriving DecidableEq, Repr, Inhabited

structure TaskId where
  text : String
  deriving DecidableEq, Repr, Inhabited

structure CallId where
  text : String
  deriving DecidableEq, Repr, Inhabited

namespace Uuid

/-- The `count` hexadecimal digits of `n`, most significant first. -/
def hex (count n : Nat) : List Char :=
  (List.range count).reverse.map fun i => Nat.digitChar (n / Nat.pow 16 i % 16)

/-- The UUID of version 7 for a time in milliseconds and a counter of 62 bits. The twelve bits
behind the version stay clear. -/
def v7 (millis counter : Nat) : String :=
  let low := Nat.pow 2 63 + counter % Nat.pow 2 62
  String.ofList
    (hex 8 (millis / Nat.pow 2 16) ++ '-' :: hex 4 millis ++ '-' :: '7' :: hex 3 0 ++
      '-' :: hex 4 (low / Nat.pow 2 48) ++ '-' :: hex 12 low)

end Uuid

def SessionId.fresh (millis counter : Nat) : SessionId := ⟨"sess_" ++ Uuid.v7 millis counter⟩

def MessageId.fresh (millis counter : Nat) : MessageId := ⟨"msg_" ++ Uuid.v7 millis counter⟩

def TaskId.fresh (millis counter : Nat) : TaskId := ⟨"task_" ++ Uuid.v7 millis counter⟩

def CallId.fresh (millis counter : Nat) : CallId := ⟨"call_" ++ Uuid.v7 millis counter⟩

/-! ## JSON -/

def SessionId.encode (i : SessionId) : Json.Value := .string i.text
def MessageId.encode (i : MessageId) : Json.Value := .string i.text
def TaskId.encode (i : TaskId) : Json.Value := .string i.text
def CallId.encode (i : CallId) : Json.Value := .string i.text

def SessionId.decoder : Json.Decoder SessionId := Json.Decoder.map .mk Json.Decoder.string
def MessageId.decoder : Json.Decoder MessageId := Json.Decoder.map .mk Json.Decoder.string
def TaskId.decoder : Json.Decoder TaskId := Json.Decoder.map .mk Json.Decoder.string
def CallId.decoder : Json.Decoder CallId := Json.Decoder.map .mk Json.Decoder.string

end AgentSessions
