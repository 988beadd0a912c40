import AgentSessions.Warning

/-!
# Captured logs

The events of a log as a test looks at them: their level, their message and their fields in order.
-/

set_option autoImplicit false

namespace AgentSessions

inductive LogLevel where
  | trace
  | debug
  | info
  | warn
  | error
  deriving DecidableEq, Repr

namespace LogLevel

def name : LogLevel → String
  | trace => "TRACE"
  | debug => "DEBUG"
  | info => "INFO"
  | warn => "WARN"
  | error => "ERROR"

/-- The level of this name, in any case. -/
def ofName? (text : String) : Option LogLevel :=
  [trace, debug, info, warn, error].find? fun l => l.name == text.toUpper

end LogLevel

structure LogEvent where
  level : LogLevel
  message : String
  fields : List (String × String)
  deriving DecidableEq, Repr

namespace LogEvent

def field? (e : LogEvent) (name : String) : Option String :=
  (e.fields.find? fun f => f.1 == name).map (·.2)

end LogEvent

/-- Whether a text stands somewhere in another one. -/
def Text.occursIn (part text : List Char) : Bool :=
  match text with
  | [] => part.isEmpty
  | _ :: rest => part.isPrefixOf text || Text.occursIn part rest

namespace Log

/-- Whether there is an event of this level whose message contains a text. -/
def has (events : List LogEvent) (level : LogLevel) (part : String) : Bool :=
  events.any fun e => e.level == level && Text.occursIn part.toList e.message.toList

def count (events : List LogEvent) (level : LogLevel) : Nat :=
  (events.filter fun e => e.level == level).length

end Log

end AgentSessions
