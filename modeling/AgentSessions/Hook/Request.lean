import AgentSessions.Ident
import AgentSessions.Tool.Spec

/-!
# Checks of tool calls

Before a tool runs its call is checked, and after it ran its result is reviewed. A check of a call
allows it, denies it or asks for a confirmation, and may replace the arguments. A review may replace
the result and may add feedback to it.
-/

set_option autoImplicit false

namespace AgentSessions

open Json (Decoder Record Value Object)

inductive Decision where
  | allow
  | deny
  /-- Somebody has to confirm the call; where nobody is asked it is allowed. -/
  | ask
  deriving DecidableEq, Repr, Inhabited

namespace Decision

def name : Decision → String
  | allow => "allow"
  | deny => "deny"
  | ask => "ask"

def names : List (String × Decision) :=
  [allow, deny, ask].map fun d => (d.name, d)

def encode (d : Decision) : Value := .string d.name

def decoder : Decoder Decision := Decoder.oneOf names

end Decision

/-! ## Before a tool runs -/

/-- A call that waits for permission. -/
structure PreRequest where
  sessionId : SessionId
  toolName : String
  arguments : Object
  toolCallId : CallId
  deriving DecidableEq

namespace PreRequest

def encode (r : PreRequest) : Value :=
  Value.record
    [Value.field "sessionId" r.sessionId.encode, Value.field "toolName" (.string r.toolName),
      Value.field "arguments" r.arguments.toValue, Value.field "toolCallId" r.toolCallId.encode]

def decoder : Decoder PreRequest := Record.decoder <|
  mk <$> Record.field "sessionId" SessionId.decoder
    <*> Record.field "toolName" Decoder.string
    <*> Record.field "arguments" Decoder.object
    <*> Record.field "toolCallId" CallId.decoder

end PreRequest

/-- What a check says of a call. -/
structure PreOutcome where
  decision : Decision
  reason : Option String
  /-- Arguments to go on with. -/
  updatedArgs : Option Object
  deriving DecidableEq

namespace PreOutcome

def allow : PreOutcome := ⟨.allow, none, none⟩

def deny (reason : String) : PreOutcome := ⟨.deny, some reason, none⟩

def ask (reason : String) : PreOutcome := ⟨.ask, some reason, none⟩

def allowWith (arguments : Object) : PreOutcome := ⟨.allow, none, some arguments⟩

def isDenied (o : PreOutcome) : Bool :=
  o.decision == .deny

def encode (o : PreOutcome) : Value :=
  Value.record
    [Value.field "decision" o.decision.encode, Value.optional "reason" Value.string o.reason,
      Value.optional "updatedArgs" Object.toValue o.updatedArgs]

def decoder : Decoder PreOutcome := Record.decoder <|
  mk <$> Record.field "decision" Decision.decoder
    <*> Record.optional "reason" Decoder.string
    <*> Record.optional "updatedArgs" Decoder.object

end PreOutcome

/-! ## After a tool ran -/

/-- A result that is up for review. -/
structure PostRequest where
  sessionId : SessionId
  toolName : String
  arguments : Object
  toolCallId : CallId
  result : ToolOutcome
  deriving DecidableEq

namespace PostRequest

def encode (r : PostRequest) : Value :=
  Value.record
    [Value.field "sessionId" r.sessionId.encode, Value.field "toolName" (.string r.toolName),
      Value.field "arguments" r.arguments.toValue, Value.field "toolCallId" r.toolCallId.encode,
      Value.field "result" r.result.encode]

def decoder : Decoder PostRequest := Record.decoder <|
  mk <$> Record.field "sessionId" SessionId.decoder
    <*> Record.field "toolName" Decoder.string
    <*> Record.field "arguments" Decoder.object
    <*> Record.field "toolCallId" CallId.decoder
    <*> Record.field "result" ToolOutcome.decoder

end PostRequest

/-- What a review says of a result. -/
structure PostOutcome where
  updatedResult : Option ToolOutcome
  feedback : Option String
  deriving DecidableEq

namespace PostOutcome

def unchanged : PostOutcome := ⟨none, none⟩

def note (feedback : String) : PostOutcome := ⟨none, some feedback⟩

def replace (result : ToolOutcome) : PostOutcome := ⟨some result, none⟩

/-- Feedback put behind a text, with an empty line between the two unless the text is empty. -/
def addFeedback (content feedback : String) : String :=
  if content.isEmpty then feedback else content ++ "\n\n" ++ feedback

/-- The result after the review: replaced first, then with the feedback added. -/
def apply (o : PostOutcome) (result : ToolOutcome) : ToolOutcome :=
  let result := o.updatedResult.getD result
  match o.feedback with
  | none => result
  | some feedback => { result with content := addFeedback result.content feedback }

def encode (o : PostOutcome) : Value :=
  Value.record
    [Value.optional "updatedResult" ToolOutcome.encode o.updatedResult,
      Value.optional "feedback" Value.string o.feedback]

def decoder : Decoder PostOutcome := Record.decoder <|
  mk <$> Record.optional "updatedResult" ToolOutcome.decoder
    <*> Record.optional "feedback" Decoder.string

end PostOutcome

/-! ## Confirmation -/

/-- A call that somebody has to confirm. -/
structure ConfirmationRequest where
  sessionId : SessionId
  toolName : String
  arguments : Object
  reason : Option String
  deriving DecidableEq

namespace ConfirmationRequest

def encode (r : ConfirmationRequest) : Value :=
  Value.record
    [Value.field "sessionId" r.sessionId.encode, Value.field "toolName" (.string r.toolName),
      Value.field "arguments" r.arguments.toValue,
      Value.optional "reason" Value.string r.reason]

def decoder : Decoder ConfirmationRequest := Record.decoder <|
  mk <$> Record.field "sessionId" SessionId.decoder
    <*> Record.field "toolName" Decoder.string
    <*> Record.field "arguments" Decoder.object
    <*> Record.optional "reason" Decoder.string

end ConfirmationRequest

/-- Why a handler or a confirmation failed. -/
inductive HookError where
  | timeout (name : String) (timeoutMs : UInt64)
  | handler (name detail : String)
  | confirmation (detail : String)
  deriving DecidableEq, Repr

def HookError.message : HookError → String
  | timeout name ms => "hook timed out after " ++ toString ms.toNat ++ "ms: " ++ name
  | handler name detail => "hook handler error in '" ++ name ++ "': " ++ detail
  | confirmation detail => "confirmation unavailable: " ++ detail

end AgentSessions
