import AgentSessions.Compaction.Transcript
import AgentSessions.Model

/-!
# Summaries

Turns are summarized either by a model, from their transcript, or without one: by the requests of
the user, the tools that were called and the files that they were called on.
-/

set_option autoImplicit false

namespace AgentSessions

open Json (Object Value)

inductive SummarizerError where
  | callFailed (detail : String)
  /-- The model had nothing to say. -/
  | empty
  deriving DecidableEq, Repr

def SummarizerError.message : SummarizerError → String
  | callFailed detail => "summarizer call failed: " ++ detail
  | empty => "summarizer returned an empty summary"

namespace Summary

/-! ## By a model -/

/-- What a model is told to do with a transcript. -/
def instructions : String :=
  "Summarize the conversation transcript below so the conversation can continue without it. "
    ++ "Keep the user's goals, decisions made, files and commands involved, and any unfinished "
    ++ "work. Reply with the summary only."

/-- The question to the model, which may not call tools. -/
def request (turns : List Turn) (now : Instant) : ModelRequest :=
  ⟨[Turn.system instructions now, Turn.user (Transcript.ofTurns turns) now], []⟩

def ofAnswer : Except ModelError ModelResponse → Except SummarizerError String
  | .error e => .error (.callFailed e.message)
  | .ok response =>
      let summary := Text.trim response.content
      if summary.isEmpty then .error .empty else .ok summary

/-! ## Without a model -/

/-- Bytes that are kept of a request. -/
def requestLimit : Nat := 200

def requests (turns : List Turn) : List String :=
  (turns.filter fun t => t.role == .user).map fun t => Text.truncate t.content requestLimit

def earlier (turns : List Turn) : List String :=
  (turns.filter fun t => t.role == .system && t.summary).map Turn.content

def calls (turns : List Turn) : List ToolCall :=
  turns.flatMap Turn.toolCalls

def file? (arguments : Object) : Option String :=
  match (arguments.get? "file_path").or (arguments.get? "path") with
  | some (.string path) => some path
  | _ => none

/-- The summary without a model. -/
def byKeywords (turns : List Turn) : String :=
  let requests := requests turns
  let tools := ((calls turns).map ToolCall.name).eraseDups
  let files := ((calls turns).filterMap fun c => file? c.arguments).eraseDups
  let asked :=
    if requests.isEmpty then "(" ++ toString turns.length ++ " turns summarized)"
    else "The user made " ++ toString requests.length ++ " requests: " ++ "; ".intercalate requests
  "\n".intercalate <|
    earlier turns ++ [asked]
      ++ (if tools.isEmpty then [] else ["Tools used: " ++ ", ".intercalate tools])
      ++ (if files.isEmpty then [] else ["Files touched: " ++ ", ".intercalate files])

end Summary

end AgentSessions
