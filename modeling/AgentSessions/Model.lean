import AgentSessions.History.Turn
import AgentSessions.Tool.Spec

/-!
# Models

What a model is asked and what it answers.
-/

set_option autoImplicit false

namespace AgentSessions

open Json (Decoder Record Value)

/-- A question to a model: a history and the tools that it may call. -/
structure ModelRequest where
  turns : List Turn
  tools : List ToolSpec
  deriving DecidableEq

structure ModelResponse where
  content : String
  toolCalls : List ToolCall
  thinking : Option String
  deriving DecidableEq, Inhabited

namespace ModelResponse

def text (content : String) : ModelResponse :=
  ⟨content, [], none⟩

def calling (content : String) (calls : List ToolCall) : ModelResponse :=
  ⟨content, calls, none⟩

def hasToolCalls (r : ModelResponse) : Bool :=
  !r.toolCalls.isEmpty

def encode (r : ModelResponse) : Value :=
  Value.record
    [Value.field "content" (.string r.content),
      Value.fieldIf r.hasToolCalls "toolCalls" (.array (r.toolCalls.map ToolCall.encode)),
      Value.optional "thinking" Value.string r.thinking]

def decoder : Decoder ModelResponse := Record.decoder <|
  mk <$> Record.field "content" Decoder.string
    <*> Record.withDefault "toolCalls" (Decoder.list ToolCall.decoder) []
    <*> Record.withDefault "thinking" (Decoder.nullable Decoder.string) none

end ModelResponse

inductive ModelError where
  | transport (message : String)
  | rateLimited (retryAfterMs : Option UInt64)
  | invalidResponse (message : String)
  deriving DecidableEq, Repr

namespace ModelError

def message : ModelError → String
  | transport m => "model transport error: " ++ m
  | rateLimited _ => "model rate limited"
  | invalidResponse m => "invalid model response: " ++ m

def category : ModelError → String
  | transport _ => "transport"
  | rateLimited _ => "rate_limit"
  | invalidResponse _ => "invalid_response"

/-- Whether the same question may be answered later. -/
def isRetryable : ModelError → Bool
  | invalidResponse _ => false
  | _ => true

end ModelError

end AgentSessions
