import AgentSessions.Decimal.Shortest
import AgentSessions.Settings.Basic

/-!
# Valid settings

Settings that are read may be out of range. `Settings.validate` gives the first fault, in the order
of the checks.
-/

set_option autoImplicit false

namespace AgentSessions

open Json (Cause)

inductive SettingsFault where
  | maxSteps
  | threshold (value : Binary64)
  | contextWindow
  | maxConcurrent
  | maxBacklog
  deriving DecidableEq

namespace SettingsFault

def detail : SettingsFault → String
  | maxSteps => "engine.maxSteps must be at least 1"
  | threshold value => "compaction.threshold must be in (0, 1], got " ++ value.plain
  | contextWindow => "compaction.contextWindowTokens must be positive"
  | maxConcurrent => "tasks.maxConcurrent must be at least 1"
  | maxBacklog => "queue.maxBacklog must be at least 1 when set"

end SettingsFault

inductive SettingsError where
  | unreadable
  /-- The file does not hold settings. -/
  | json (cause : Cause)
  | invalidValue (detail : String)
  deriving DecidableEq

def SettingsError.invalidValueMessage (detail : String) : String :=
  "invalid settings value: " ++ detail

namespace Settings

/-- Whether a threshold lies above zero and at most at one. -/
def thresholdOk (x : Binary64) : Bool :=
  (Binary64.zero false).lt x && x.le (Binary64.ofNat 1)

/-- The first fault of the settings. -/
def fault? (s : Settings) : Option SettingsFault :=
  if s.engine.maxSteps = 0 then some .maxSteps
  else if !thresholdOk s.compaction.threshold then some (.threshold s.compaction.threshold)
  else if s.compaction.contextWindowTokens = 0 then some .contextWindow
  else if s.tasks.maxConcurrent = 0 then some .maxConcurrent
  else if s.queue.maxBacklog = some 0 then some .maxBacklog
  else none

def validate (s : Settings) : Except SettingsError Unit :=
  match s.fault? with
  | some fault => .error (.invalidValue fault.detail)
  | none => .ok ()

end Settings

end AgentSessions
