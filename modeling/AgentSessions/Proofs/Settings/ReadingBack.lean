import AgentSessions.Proofs.Json.Records
import AgentSessions.Settings.Basic

/-!
# Reading back settings

Settings are read back from their JSON form. A limit of a quota is always written, as `null` where
there is none: were it left out, its default would be read, and a default quota has a limit. The
other limits are left out where there are none, which is their default. A threshold that is no
finite number has no JSON form of its own, so settings are read back where it is finite.
-/

set_option autoImplicit false

namespace AgentSessions

open Json Json.Decoder Json.Record

/-! ## Simple groups -/

theorem reads_limit32 (limit : Option UInt32) :
    (Decoder.nullable Decoder.uint32).Reads (ToolQuota.encodeLimit limit) limit :=
  reads_nullable reads_uint32 (fun n => isShown_nat n.toNat) limit

theorem ToolQuota.reads (q : ToolQuota) : decoder.Reads q.encode q := by
  have hturn := (reads_withDefault "perTurn" (reads_limit32 q.perTurn)
    (default : ToolQuota).1).map mk
  have hsession := hturn.seq (reads_withDefault "perSession" (reads_limit32 q.perSession)
    (default : ToolQuota).2)
  exact hsession.decoder (by decide)

theorem EngineSettings.reads (s : EngineSettings) : decoder.Reads s.encode s := by
  have hsteps := (reads_withDefault "maxSteps" (reads_uint32 s.maxSteps)
    (default : EngineSettings).maxSteps).map mk
  have hquota := hsteps.seq (reads_withDefault "defaultToolQuota" s.defaultToolQuota.reads
    (default : EngineSettings).defaultToolQuota)
  have hquotas := hquota.seq (reads_withDefault "toolQuotas"
    (reads_dict s.toolQuotas fun e _ => e.2.reads) (default : EngineSettings).toolQuotas)
  have hprompt := hquotas.seq (reads_withDefault "forceFinalAnswerPrompt"
    (reads_string s.forceFinalAnswerPrompt) (default : EngineSettings).forceFinalAnswerPrompt)
  exact hprompt.decoder (by decide)

theorem CompactionSettings.reads {s : CompactionSettings} (h : s.threshold.isFinite = true) :
    decoder.Reads s.encode s := by
  have henabled := (reads_withDefault "enabled" (reads_bool s.enabled)
    (default : CompactionSettings).enabled).map mk
  have hwindow := henabled.seq (reads_withDefault "contextWindowTokens"
    (reads_uint64 s.contextWindowTokens) (default : CompactionSettings).contextWindowTokens)
  have hthreshold := hwindow.seq (reads_withDefault "threshold" (reads_float h)
    (default : CompactionSettings).threshold)
  have hrecent := hthreshold.seq (reads_withDefault "preserveRecentTurns"
    (reads_uint64 s.preserveRecentTurns) (default : CompactionSettings).preserveRecentTurns)
  have hchars := hrecent.seq (reads_withDefault "maxSummaryChars"
    (reads_uint64 s.maxSummaryChars) (default : CompactionSettings).maxSummaryChars)
  exact hchars.decoder (by decide)

theorem QueueSettings.reads (s : QueueSettings) : decoder.Reads s.encode s := by
  have hbacklog := (reads_optionalDefault "maxBacklog" (o := s.maxBacklog)
    (fun n _ => reads_uint64 n) fun n => isShown_nat n.toNat).map mk
  exact hbacklog.decoder (by decide)

theorem AgentProfile.reads (p : AgentProfile) : decoder.Reads p.encode p := by
  have hdescription := (reads_withDefault "description" (reads_string p.description) "").map mk
  have htools := hdescription.seq (reads_optionalDefault "allowedTools" (o := p.allowedTools)
    (fun names _ => reads_strings names) fun _ => isShown_array _)
  have hprompt := htools.seq (reads_withDefault "systemPrompt" (reads_string p.systemPrompt) "")
  have hsteps := hprompt.seq (reads_optionalDefault "maxSteps" (o := p.maxSteps)
    (fun n _ => reads_uint32 n) fun n => isShown_nat n.toNat)
  exact hsteps.decoder (by decide)

theorem TaskSettings.reads (s : TaskSettings) : decoder.Reads s.encode s := by
  have hconcurrent := (reads_withDefault "maxConcurrent" (reads_uint64 s.maxConcurrent)
    (default : TaskSettings).maxConcurrent).map mk
  have hdepth := hconcurrent.seq (reads_withDefault "maxDepth" (reads_uint32 s.maxDepth)
    (default : TaskSettings).maxDepth)
  have htimeout := hdepth.seq (reads_withDefault "defaultWaitTimeoutMs"
    (reads_uint64 s.defaultWaitTimeoutMs) (default : TaskSettings).defaultWaitTimeoutMs)
  have hagents := htimeout.seq (reads_withDefault "agents"
    (reads_dict s.agents fun e _ => e.2.reads) (default : TaskSettings).agents)
  exact hagents.decoder (by decide)

theorem HookSettings.reads (s : HookSettings) : decoder.Reads s.encode s := by
  have htimeout := (reads_withDefault "defaultTimeoutMs" (reads_uint64 s.defaultTimeoutMs)
    (default : HookSettings).defaultTimeoutMs).map mk
  exact htimeout.decoder (by decide)

theorem LoggingSettings.reads (s : LoggingSettings) : decoder.Reads s.encode s := by
  have hlevel := (reads_withDefault "level" (reads_string s.level)
    (default : LoggingSettings).level).map mk
  have hjson := hlevel.seq (reads_withDefault "json" (reads_bool s.json)
    (default : LoggingSettings).json)
  exact hjson.decoder (by decide)

/-! ## All settings -/

theorem Settings.reads {s : Settings} (h : s.compaction.threshold.isFinite = true) :
    decoder.Reads s.encode s := by
  have hengine := (reads_withDefault "engine" s.engine.reads default).map mk
  have hcompaction := hengine.seq
    (reads_withDefault "compaction" (CompactionSettings.reads h) default)
  have hqueue := hcompaction.seq (reads_withDefault "queue" s.queue.reads default)
  have htasks := hqueue.seq (reads_withDefault "tasks" s.tasks.reads default)
  have hhooks := htasks.seq (reads_withDefault "hooks" s.hooks.reads default)
  have hlogging := hhooks.seq (reads_withDefault "logging" s.logging.reads default)
  exact hlogging.decoder (by decide)

end AgentSessions
