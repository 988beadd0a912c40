import AgentSessions.Json.Merge
import AgentSessions.Settings.Validation
import AgentSessions.Text.Bytes
import AgentSessions.Warning

/-!
# Loading settings

Settings come from three places: the defaults, a file that is put over them, and environment
variables that are put over both. A variable that does not hold a value of its kind, or one out of
its range, is passed over with a warning. The result has to be valid.
-/

set_option autoImplicit false

namespace AgentSessions

open Json (Decoder Value)

/-- The environment: the values of the variables that are set. -/
abbrev Environment := String → Option String

/-! ## Values in text -/

namespace Variable

/-- Reads a truth value in any case. -/
def bool? (text : String) : Option Bool :=
  match Text.lowerAscii text with
  | "true" | "1" | "yes" | "on" => some true
  | "false" | "0" | "no" | "off" => some false
  | _ => none

/-- Reads a natural number: digits behind an optional plus sign. Of the numbers past 64 bits it
gives the least. -/
def nat? (text : String) : Option Nat :=
  let digits :=
    match text.toList with
    | '+' :: rest => rest
    | rest => rest
  if digits.isEmpty || !digits.all Char.isDigit then none
  else some (Binary64.ofDigitsUpTo 18446744073709551616 digits)

/-- Reads a word of 64 bits from `low` to `high`. -/
def word? (low high : UInt64) (text : String) : Option UInt64 :=
  match nat? text with
  | some n => if low.toNat ≤ n ∧ n ≤ high.toNat then some (UInt64.ofNat n) else none
  | none => none

/-- Reads a finite number from `low` to `high`. -/
def float? (low high : Binary64) (text : String) : Option Binary64 :=
  match Binary64.parse? text with
  | some x => if x.isFinite && low.le x && x.le high then some x else none
  | none => none

def read {α : Type} (env : Environment) (key : String) (parse : String → Option α) : Option α :=
  (env key).bind parse

/-- The warning of a variable that is set and cannot be read. -/
def complaint {α : Type} (env : Environment) (key kind : String) (parse : String → Option α) :
    List Warning :=
  match env key with
  | none => []
  | some text => if (parse text).isSome then [] else [.invalidVariable key text kind]

end Variable

/-! ## Variables -/

namespace Overrides

open Variable

def steps? : String → Option UInt64 := word? 1 10000
def window? : String → Option UInt64 := word? 1000 10000000
def threshold? : String → Option Binary64 :=
  float? (Binary64.nearest false 5 (-2)) (Binary64.ofNat 1)
def backlog? : String → Option UInt64 := word? 1 1000000
def concurrent? : String → Option UInt64 := word? 1 256
/-- The reader of `CONDUCTOR_LOG_LEVEL`: any text but the empty one. -/
def level? (text : String) : Option String := if text.isEmpty then none else some text

/-- The settings with the values of the variables put over them. -/
def apply (s : Settings) (env : Environment) : Settings where
  engine :=
    { s.engine with
      maxSteps := match read env "CONDUCTOR_MAX_STEPS" steps? with
        | some n => n.toUInt32
        | none => s.engine.maxSteps }
  compaction :=
    { s.compaction with
      enabled := (read env "CONDUCTOR_COMPACTION_ENABLED" bool?).getD s.compaction.enabled
      contextWindowTokens :=
        (read env "CONDUCTOR_CONTEXT_WINDOW" window?).getD s.compaction.contextWindowTokens
      threshold :=
        (read env "CONDUCTOR_COMPACTION_THRESHOLD" threshold?).getD s.compaction.threshold }
  queue :=
    { s.queue with
      maxBacklog := (read env "CONDUCTOR_MAX_BACKLOG" backlog?).or s.queue.maxBacklog }
  tasks :=
    { s.tasks with
      maxConcurrent :=
        (read env "CONDUCTOR_MAX_CONCURRENT_TASKS" concurrent?).getD s.tasks.maxConcurrent }
  hooks := s.hooks
  logging :=
    { s.logging with
      level := (read env "CONDUCTOR_LOG_LEVEL" level?).getD s.logging.level
      json := (read env "CONDUCTOR_LOG_JSON" bool?).getD s.logging.json }

/-- One warning for every variable that is passed over. -/
def warnings (env : Environment) : List Warning :=
  complaint env "CONDUCTOR_MAX_STEPS" "u64" steps?
    ++ complaint env "CONDUCTOR_COMPACTION_ENABLED" "bool" bool?
    ++ complaint env "CONDUCTOR_CONTEXT_WINDOW" "usize" window?
    ++ complaint env "CONDUCTOR_COMPACTION_THRESHOLD" "f64" threshold?
    ++ complaint env "CONDUCTOR_MAX_BACKLOG" "usize" backlog?
    ++ complaint env "CONDUCTOR_MAX_CONCURRENT_TASKS" "usize" concurrent?
    ++ complaint env "CONDUCTOR_LOG_JSON" "bool" bool?

end Overrides

/-! ## Files -/

inductive SettingsFile where
  | missing
  /-- Something that cannot be read, such as a directory. -/
  | unreadable
  | bytes (content : ByteArray)

namespace Settings

/-- The settings that a text gives when it is put over the defaults. -/
def ofText (text : String) : Except SettingsError Settings :=
  match Decoder.text? Decoder.any text with
  | .error cause => .error (.json cause)
  | .ok user =>
      match decoder.value? (Json.merge (default : Settings).encode.canonicalize user) with
      | .error cause => .error (.json cause)
      | .ok s => .ok s

def ofFile (file : SettingsFile) : Except SettingsError Settings :=
  match file with
  | .missing => .ok default
  | .unreadable => .error .unreadable
  | .bytes content =>
      match String.fromUTF8? content with
      | none => .error .unreadable
      | some text => ofText text

/-- Loads valid settings from a file and the environment; the warnings come with the result. -/
def load (file : SettingsFile) (env : Environment) :
    Except SettingsError Settings × List Warning :=
  match ofFile file with
  | .error e => (.error e, [])
  | .ok s =>
      let s := Overrides.apply s env
      ((validate s).map fun _ => s, Overrides.warnings env)

end Settings

/-! ## The path of the settings file -/

/-- A component put behind a path, with one slash between them. -/
def joinPath (path component : String) : String :=
  if path.isEmpty then component
  else if path.endsWith "/" then path ++ component
  else path ++ "/" ++ component

/-- The path of the settings file below the home directory, which is `/tmp` when it is unknown. -/
def settingsPath (home : Option String) : String :=
  joinPath (joinPath (home.getD "/tmp") ".conductor") "settings.json"

end AgentSessions
