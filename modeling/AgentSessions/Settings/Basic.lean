import AgentSessions.Decimal.Reading
import AgentSessions.Json.Decode

/-!
# Settings

The settings of the program in six groups, with their defaults and their JSON form. In a file every
field may be missing and then has its default.
-/

set_option autoImplicit false

namespace AgentSessions

open Json (Decoder Record Value)

/-! ## The engine -/

/-- How often one tool may run, in one run of the engine and in a session; `none` is without
limit. -/
structure ToolQuota where
  perTurn : Option UInt32
  perSession : Option UInt32
  deriving DecidableEq, Repr

namespace ToolQuota

instance : Inhabited ToolQuota := ⟨some 100, none⟩

def unlimited : ToolQuota := ⟨none, none⟩

def encodeLimit (limit : Option UInt32) : Value :=
  Value.nullable (fun n : UInt32 => .nat n.toNat) limit

def encode (q : ToolQuota) : Value :=
  Value.record
    [Value.field "perTurn" (encodeLimit q.perTurn),
      Value.field "perSession" (encodeLimit q.perSession)]

def decoder : Decoder ToolQuota := Record.decoder <|
  mk <$> Record.withDefault "perTurn" (Decoder.nullable Decoder.uint32) (default : ToolQuota).1
    <*> Record.withDefault "perSession" (Decoder.nullable Decoder.uint32)
      (default : ToolQuota).2

end ToolQuota

def Dict.encode {α : Type} (encode : α → Value) (d : Dict α) : Value :=
  .object (d.entries.map fun e => (e.1, encode e.2))

structure EngineSettings where
  maxSteps : UInt32
  defaultToolQuota : ToolQuota
  toolQuotas : Dict ToolQuota
  forceFinalAnswerPrompt : String
  deriving DecidableEq

namespace EngineSettings

/-- The instruction that ends a run whose quota is used up. -/
def forcePrompt : String :=
  "Tool call limit reached. Do not call any more tools. "
    ++ "Answer the user now using only the information you already have."

instance : Inhabited EngineSettings := ⟨50, default, .empty, forcePrompt⟩

def quotaFor (s : EngineSettings) (tool : String) : ToolQuota :=
  (s.toolQuotas.get? tool).getD s.defaultToolQuota

def encode (s : EngineSettings) : Value :=
  Value.record
    [Value.field "maxSteps" (.nat s.maxSteps.toNat),
      Value.field "defaultToolQuota" s.defaultToolQuota.encode,
      Value.field "toolQuotas" (s.toolQuotas.encode ToolQuota.encode),
      Value.field "forceFinalAnswerPrompt" (.string s.forceFinalAnswerPrompt)]

def decoder : Decoder EngineSettings := Record.decoder <|
  let d : EngineSettings := default
  mk <$> Record.withDefault "maxSteps" Decoder.uint32 d.maxSteps
    <*> Record.withDefault "defaultToolQuota" ToolQuota.decoder d.defaultToolQuota
    <*> Record.withDefault "toolQuotas" (Decoder.dict ToolQuota.decoder) d.toolQuotas
    <*> Record.withDefault "forceFinalAnswerPrompt" Decoder.string d.forceFinalAnswerPrompt

end EngineSettings

/-! ## Compaction -/

structure CompactionSettings where
  enabled : Bool
  contextWindowTokens : UInt64
  threshold : Binary64
  preserveRecentTurns : UInt64
  maxSummaryChars : UInt64
  deriving DecidableEq

namespace CompactionSettings

instance : Inhabited CompactionSettings :=
  ⟨true, 200000, Binary64.nearest false 8 (-1), 6, 8000⟩

/-- The number of tokens above which a history is compacted: the threshold's part of the context
window, cut to a whole number. -/
def triggerTokens (s : CompactionSettings) : UInt64 :=
  ((Binary64.ofNat s.contextWindowTokens.toNat).mul s.threshold).toUInt64

def encode (s : CompactionSettings) : Value :=
  Value.record
    [Value.field "enabled" (.bool s.enabled),
      Value.field "contextWindowTokens" (.nat s.contextWindowTokens.toNat),
      Value.field "threshold" (.float s.threshold),
      Value.field "preserveRecentTurns" (.nat s.preserveRecentTurns.toNat),
      Value.field "maxSummaryChars" (.nat s.maxSummaryChars.toNat)]

def decoder : Decoder CompactionSettings := Record.decoder <|
  let d : CompactionSettings := default
  mk <$> Record.withDefault "enabled" Decoder.bool d.enabled
    <*> Record.withDefault "contextWindowTokens" Decoder.uint64 d.contextWindowTokens
    <*> Record.withDefault "threshold" Decoder.float d.threshold
    <*> Record.withDefault "preserveRecentTurns" Decoder.uint64 d.preserveRecentTurns
    <*> Record.withDefault "maxSummaryChars" Decoder.uint64 d.maxSummaryChars

end CompactionSettings

/-! ## Queue, tasks, hooks and logging -/

structure QueueSettings where
  /-- How many prompts may wait for a session; `none` is without limit. -/
  maxBacklog : Option UInt64
  deriving DecidableEq, Repr

namespace QueueSettings

instance : Inhabited QueueSettings := ⟨⟨none⟩⟩

def encode (s : QueueSettings) : Value :=
  Value.record
    [Value.optional "maxBacklog" (fun n : UInt64 => .nat n.toNat) s.maxBacklog]

def decoder : Decoder QueueSettings := Record.decoder <|
  mk <$> Record.withDefault "maxBacklog" (Decoder.nullable Decoder.uint64) none

end QueueSettings

structure AgentProfile where
  description : String
  /-- The tools that the sub-agent may use; `none` is all of them. -/
  allowedTools : Option (List String)
  systemPrompt : String
  maxSteps : Option UInt32
  deriving DecidableEq, Repr

namespace AgentProfile

instance : Inhabited AgentProfile := ⟨"", none, "", none⟩

def encode (p : AgentProfile) : Value :=
  Value.record
    [Value.field "description" (.string p.description),
      Value.optional "allowedTools" Value.strings p.allowedTools,
      Value.field "systemPrompt" (.string p.systemPrompt),
      Value.optional "maxSteps" (fun n : UInt32 => .nat n.toNat) p.maxSteps]

def decoder : Decoder AgentProfile := Record.decoder <|
  mk <$> Record.withDefault "description" Decoder.string ""
    <*> Record.withDefault "allowedTools" (Decoder.nullable (Decoder.list Decoder.string)) none
    <*> Record.withDefault "systemPrompt" Decoder.string ""
    <*> Record.withDefault "maxSteps" (Decoder.nullable Decoder.uint32) none

end AgentProfile

/-- Settings of tasks and of the sub-agents that run them. -/
structure TaskSettings where
  maxConcurrent : UInt64
  /-- How deep sub-agents may be nested. -/
  maxDepth : UInt32
  defaultWaitTimeoutMs : UInt64
  agents : Dict AgentProfile
  deriving DecidableEq

namespace TaskSettings

/-- The kinds of sub-agents that are there by default. -/
def defaultAgents : Dict AgentProfile :=
  .ofList
    [ ("general",
        { description := "General-purpose agent with the parent's tools"
          allowedTools := none
          systemPrompt := "You are a focused sub-agent. Complete the delegated task "
            ++ "and reply with a concise report of what you found or did."
          maxSteps := none }),
      ("explore",
        { description := "Read-only codebase exploration"
          allowedTools := some ["read_file", "list_dir", "grep", "glob"]
          systemPrompt := "You are a read-only exploration agent. Investigate the "
            ++ "question and report findings. Never modify files."
          maxSteps := some 20 }) ]

instance : Inhabited TaskSettings := ⟨3, 1, 300000, defaultAgents⟩

def encode (s : TaskSettings) : Value :=
  Value.record
    [Value.field "maxConcurrent" (.nat s.maxConcurrent.toNat),
      Value.field "maxDepth" (.nat s.maxDepth.toNat),
      Value.field "defaultWaitTimeoutMs" (.nat s.defaultWaitTimeoutMs.toNat),
      Value.field "agents" (s.agents.encode AgentProfile.encode)]

def decoder : Decoder TaskSettings := Record.decoder <|
  let d : TaskSettings := default
  mk <$> Record.withDefault "maxConcurrent" Decoder.uint64 d.maxConcurrent
    <*> Record.withDefault "maxDepth" Decoder.uint32 d.maxDepth
    <*> Record.withDefault "defaultWaitTimeoutMs" Decoder.uint64 d.defaultWaitTimeoutMs
    <*> Record.withDefault "agents" (Decoder.dict AgentProfile.decoder) d.agents

end TaskSettings

structure HookSettings where
  /-- How long a handler without a limit of its own may take. -/
  defaultTimeoutMs : UInt64
  deriving DecidableEq, Repr

namespace HookSettings

instance : Inhabited HookSettings := ⟨⟨30000⟩⟩

def encode (s : HookSettings) : Value :=
  Value.record [Value.field "defaultTimeoutMs" (.nat s.defaultTimeoutMs.toNat)]

def decoder : Decoder HookSettings := Record.decoder <|
  mk <$> Record.withDefault "defaultTimeoutMs" Decoder.uint64
    (default : HookSettings).defaultTimeoutMs

end HookSettings

structure LoggingSettings where
  level : String
  json : Bool
  deriving DecidableEq, Repr

namespace LoggingSettings

instance : Inhabited LoggingSettings := ⟨"info", false⟩

def encode (s : LoggingSettings) : Value :=
  Value.record [Value.field "level" (.string s.level), Value.field "json" (.bool s.json)]

def decoder : Decoder LoggingSettings := Record.decoder <|
  let d : LoggingSettings := default
  mk <$> Record.withDefault "level" Decoder.string d.level
    <*> Record.withDefault "json" Decoder.bool d.json

end LoggingSettings

/-! ## All settings -/

structure Settings where
  engine : EngineSettings
  compaction : CompactionSettings
  queue : QueueSettings
  tasks : TaskSettings
  hooks : HookSettings
  logging : LoggingSettings
  deriving DecidableEq, Inhabited

namespace Settings

def encode (s : Settings) : Value :=
  Value.record
    [Value.field "engine" s.engine.encode, Value.field "compaction" s.compaction.encode,
      Value.field "queue" s.queue.encode, Value.field "tasks" s.tasks.encode,
      Value.field "hooks" s.hooks.encode, Value.field "logging" s.logging.encode]

def decoder : Decoder Settings := Record.decoder <|
  mk <$> Record.withDefault "engine" EngineSettings.decoder default
    <*> Record.withDefault "compaction" CompactionSettings.decoder default
    <*> Record.withDefault "queue" QueueSettings.decoder default
    <*> Record.withDefault "tasks" TaskSettings.decoder default
    <*> Record.withDefault "hooks" HookSettings.decoder default
    <*> Record.withDefault "logging" LoggingSettings.decoder default

end Settings

end AgentSessions
