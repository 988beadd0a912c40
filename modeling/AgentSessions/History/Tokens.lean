import AgentSessions.History.Turn

/-!
# Token estimates

Four bytes count as one token, rounded up, and every turn costs four tokens more. The calls of a
turn count with their names and the compact text of their arguments.
-/

set_option autoImplicit false

namespace AgentSessions.Tokens

/-- Bytes that count as one token. -/
def bytesPerToken : Nat := 4

/-- Tokens that every turn costs beside its text. -/
def turnOverhead : Nat := 4

def ofBytes (bytes : Nat) : Nat :=
  (bytes + (bytesPerToken - 1)) / bytesPerToken

def ofText (text : String) : Nat :=
  ofBytes text.utf8ByteSize

/-- The bytes with which a call counts. -/
def callBytes (call : ToolCall) : Nat :=
  call.name.utf8ByteSize + call.arguments.toValue.compact.utf8ByteSize

def total (ns : List Nat) : Nat :=
  ns.foldr (· + ·) 0

def ofTurn (turn : Turn) : Nat :=
  ofBytes (turn.content.utf8ByteSize + total (turn.toolCalls.map callBytes)) + turnOverhead

def ofTurns (turns : List Turn) : Nat :=
  total (turns.map ofTurn)

end AgentSessions.Tokens
