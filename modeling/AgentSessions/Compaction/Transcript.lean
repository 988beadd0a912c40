import AgentSessions.History.Turn
import AgentSessions.Text.Bytes

/-!
# Transcripts

A history as lines of text, for a model that is to summarize it. Long answers and results are
shortened; of the arguments of a call only those are shown that say what it is about. A transcript
over the limit keeps its first and its last quarter.
-/

set_option autoImplicit false

namespace AgentSessions.Transcript

open Json (Object)

/-- Bytes that are kept of an answer. -/
def answerLimit : Nat := 300

/-- Bytes that are kept of a result. -/
def resultLimit : Nat := 100

/-- Bytes that are kept of an argument. -/
def argumentLimit : Nat := 100

def limit : Nat := 60000

/-- The arguments that are shown, in this order. -/
def shownArguments : List String :=
  ["file_path", "path", "command", "pattern", "url", "query"]

def argumentText (arguments : Object) : String :=
  ", ".intercalate <| shownArguments.filterMap fun key =>
    (arguments.get? key).map fun value =>
      let text := match value with
        | .string s => s
        | other => other.compact
      key ++ ": " ++ Text.truncate text argumentLimit

def lines (turn : Turn) : List String :=
  match turn.role with
  | .user => ["[USER] " ++ turn.content]
  | .assistant =>
      (if turn.content.isEmpty then []
        else ["[ASSISTANT] " ++ Text.truncate turn.content answerLimit])
        ++ turn.toolCalls.map fun call =>
          "[TOOL_CALL] " ++ call.name ++ "(" ++ argumentText call.arguments ++ ")"
  | .tool =>
      [(if turn.isError then "[TOOL_ERROR] " else "[TOOL_RESULT] ")
        ++ Text.truncate turn.content resultLimit]
  | .system => if turn.summary then ["[SUMMARY] " ++ turn.content] else []

def render (turns : List Turn) : String :=
  "\n".intercalate (turns.flatMap lines)

/-- A text over `limit` bytes cut to its first and last quarter, with a note between them of how
much was left out. -/
def cap (limit : Nat) (text : String) : String :=
  let size := text.utf8ByteSize
  if size ≤ limit then text
  else
    let quarter := limit / 4
    let head := Text.truncate text quarter
    let tail := String.ofList (Text.dropBytes (size - quarter) text.toList)
    let omitted := size - (head.utf8ByteSize + tail.utf8ByteSize)
    head ++ "\n[... " ++ toString omitted ++ " characters omitted ...]\n" ++ tail

def ofTurns (turns : List Turn) : String :=
  cap limit (render turns)

end AgentSessions.Transcript
