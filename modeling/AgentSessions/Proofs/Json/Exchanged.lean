import AgentSessions.Hook.Request
import AgentSessions.History.Snapshot
import AgentSessions.Proofs.Json.Records
import AgentSessions.Run.Outcome
import AgentSessions.Task.Basic

/-!
# Reading back what is stored and exchanged

Histories, answers of models, queued prompts, tasks and the outcomes of runs, tools and hooks are
read back from their JSON form. Empty and false fields are left out, and so are fields without a
value; what their absence means is what they had. How points in time are written is a matter of
its own, so a value is read back where the times in it are (`Instant.ReadsBack`).
-/

set_option autoImplicit false

namespace AgentSessions

open Json Json.Decoder Json.Record

/-! ## Identifiers, names and times -/

theorem SessionId.reads (i : SessionId) : decoder.Reads i.encode i :=
  (reads_string i.text).map mk

theorem MessageId.reads (i : MessageId) : decoder.Reads i.encode i :=
  (reads_string i.text).map mk

theorem TaskId.reads (i : TaskId) : decoder.Reads i.encode i :=
  (reads_string i.text).map mk

theorem CallId.reads (i : CallId) : decoder.Reads i.encode i :=
  (reads_string i.text).map mk

theorem Role.reads (r : Role) : decoder.Reads r.encode r :=
  reads_oneOf (by cases r <;> rfl)

theorem CallOutcome.reads (o : CallOutcome) : decoder.Reads o.encode o :=
  reads_oneOf (by cases o <;> rfl)

theorem Priority.reads (p : Priority) : decoder.Reads p.encode p :=
  reads_oneOf (by cases p <;> rfl)

theorem TaskState.reads (s : TaskState) : decoder.Reads s.encode s :=
  reads_oneOf (by cases s <;> rfl)

theorem StopReason.reads (r : StopReason) : decoder.Reads r.encode r :=
  reads_oneOf (by cases r <;> rfl)

theorem Decision.reads (d : Decision) : decoder.Reads d.encode d :=
  reads_oneOf (by cases d <;> rfl)

/-- The time is read back from its text. -/
def Instant.ReadsBack (t : Instant) : Prop :=
  ofText? t.text = some t

instance (t : Instant) : Decidable t.ReadsBack :=
  inferInstanceAs (Decidable (_ = _))

theorem Instant.ReadsBack.reads {t : Instant} (h : t.ReadsBack) :
    Instant.decoder.Reads t.encode t := by
  have htext : ofText? t.text = some t := h
  refine .of_canonical rfl ?_
  rw [encode, Node.ofValue, decoder]
  simp only [Decoder.string, bind, Except.bind, htext]

/-! ## Histories -/

theorem ToolCall.reads (c : ToolCall) : decoder.Reads c.encode c := by
  have hid := (reads_field "id" c.id.reads).map mk
  have hname := hid.seq (reads_field "name" (reads_string c.name))
  have harguments := hname.seq (reads_withDefault "arguments" (reads_object c.arguments) .empty)
  exact harguments.decoder (by decide)

/-- Calls are left out where there are none. -/
theorem reads_toolCalls (calls : List ToolCall) :
    (withDefault "toolCalls" (Decoder.list ToolCall.decoder) []).Reads
      [Value.fieldIf (!calls.isEmpty) "toolCalls" (.array (calls.map ToolCall.encode))] calls :=
  reads_fieldIf "toolCalls" (!calls.isEmpty) [] (reads_list fun c _ => c.reads) fun hnone =>
    List.isEmpty_iff.mp ((Bool.not_eq_false' _).mp hnone)

theorem Turn.reads {t : Turn} (h : t.timestamp.ReadsBack) : decoder.Reads t.encode t := by
  have hrole := (reads_field "role" t.role.reads).map mk
  have hcontent := hrole.seq (reads_field "content" (reads_string t.content))
  have hcalls := hcontent.seq (reads_toolCalls t.toolCalls)
  have hcallId := hcalls.seq (reads_optionalDefault "toolCallId" (o := t.toolCallId)
    (fun i _ => i.reads) fun i => isShown_string i.text)
  have herror := hcallId.seq (reads_flag "isError" t.isError)
  have hsummary := herror.seq (reads_flag "summary" t.summary)
  have htimestamp := hsummary.seq (reads_field "timestamp" h.reads)
  exact htimestamp.decoder (by decide)

theorem CallRecord.reads {r : CallRecord} (h : r.timestamp.ReadsBack) :
    decoder.Reads r.encode r := by
  have htool := (reads_field "toolName" (reads_string r.toolName)).map mk
  have harguments := htool.seq (reads_field "arguments" (reads_object r.arguments))
  have hstep := harguments.seq (reads_field "step" (reads_uint32 r.step))
  have houtcome := hstep.seq (reads_field "outcome" r.outcome.reads)
  have htimestamp := houtcome.seq (reads_field "timestamp" h.reads)
  exact htimestamp.decoder (by decide)

theorem Snapshot.reads {s : Snapshot} (hturns : ∀ t ∈ s.turns, t.timestamp.ReadsBack)
    (hrecords : ∀ r ∈ s.records, r.timestamp.ReadsBack) : decoder.Reads s.encode s := by
  have hturns' := reads_list fun t ht => Turn.reads (hturns t ht)
  have hturn := (reads_withDefault "turns" hturns' []).map mk
  have hrecord := hturn.seq
    (reads_withDefault "records" (reads_list fun r hr => CallRecord.reads (hrecords r hr)) [])
  exact hrecord.decoder (by decide)

/-! ## Models, prompts and tasks -/

theorem ModelResponse.reads (r : ModelResponse) : decoder.Reads r.encode r := by
  have hcontent := (reads_field "content" (reads_string r.content)).map mk
  have hcalls := hcontent.seq (reads_toolCalls r.toolCalls)
  have hthinking := hcalls.seq (reads_optionalDefault "thinking" (o := r.thinking)
    (fun s _ => reads_string s) isShown_string)
  exact hthinking.decoder (by decide)

theorem QueuedMessage.reads {m : QueuedMessage} (h : m.createdAt.ReadsBack) :
    decoder.Reads m.encode m := by
  have hid := (reads_field "id" m.id.reads).map mk
  have hsession := hid.seq (reads_field "sessionId" m.sessionId.reads)
  have hprompt := hsession.seq (reads_field "prompt" (reads_string m.prompt))
  have hpriority := hprompt.seq (reads_field "priority" m.priority.reads)
  have hmetadata := hpriority.seq (reads_fieldIf "metadata" (!m.metadata.isEmpty) .empty
    (reads_object m.metadata) fun hnone =>
      Object.eq_of_members (List.isEmpty_iff.mp ((Bool.not_eq_false' _).mp hnone)))
  have hcreated := hmetadata.seq (reads_field "createdAt" h.reads)
  exact hcreated.decoder (by decide)

theorem Task.reads {t : Task} (hcreatedAt : t.createdAt.ReadsBack)
    (hstartedAt : ∀ i ∈ t.startedAt, i.ReadsBack) (hfinishedAt : ∀ i ∈ t.finishedAt, i.ReadsBack) :
    decoder.Reads t.encode t := by
  have hid := (reads_field "id" t.id.reads).map mk
  have hdescription := hid.seq (reads_field "description" (reads_string t.description))
  have hagent := hdescription.seq (reads_field "agentType" (reads_string t.agentType))
  have hstate := hagent.seq (reads_field "state" t.state.reads)
  have hpriority := hstate.seq (reads_field "priority" t.priority.reads)
  have hparent := hpriority.seq (reads_optional "parentSessionId" (o := t.parentSessionId)
    (fun i _ => i.reads) fun i => isShown_string i.text)
  have hchild := hparent.seq (reads_field "childSessionId" t.childSessionId.reads)
  have hdepth := hchild.seq (reads_field "depth" (reads_uint32 t.depth))
  have hcreated := hdepth.seq (reads_field "createdAt" hcreatedAt.reads)
  have hstarted := hcreated.seq (reads_optional "startedAt" (o := t.startedAt)
    (fun i hi => (hstartedAt i hi).reads) fun i => isShown_string i.text)
  have hfinished := hstarted.seq (reads_optional "finishedAt" (o := t.finishedAt)
    (fun i hi => (hfinishedAt i hi).reads) fun i => isShown_string i.text)
  have hresult := hfinished.seq (reads_optionalText "result" t.result)
  have herror := hresult.seq (reads_optionalText "error" t.error)
  exact herror.decoder (by decide)

/-! ## Outcomes -/

theorem RunSummary.reads (s : RunSummary) : decoder.Reads s.encode s := by
  have htext := (reads_field "text" (reads_string s.text)).map mk
  have hsteps := htext.seq (reads_field "steps" (reads_uint32 s.steps))
  have hcalls := hsteps.seq (reads_field "toolCalls" (reads_uint32 s.toolCalls))
  have hreason := hcalls.seq (reads_field "stopReason" s.stopReason.reads)
  have hforced := hreason.seq (reads_field "forcedFinalAnswer" (reads_bool s.forcedFinalAnswer))
  exact hforced.decoder (by decide)

theorem ToolOutcome.reads (o : ToolOutcome) : decoder.Reads o.encode o := by
  have hsuccess := (reads_field "success" (reads_bool o.success)).map mk
  have hcontent := hsuccess.seq (reads_field "content" (reads_string o.content))
  have herror := hcontent.seq (reads_optionalText "error" o.error)
  exact herror.decoder (by decide)

theorem PreOutcome.reads (o : PreOutcome) : decoder.Reads o.encode o := by
  have hdecision := (reads_field "decision" o.decision.reads).map mk
  have hreason := hdecision.seq (reads_optionalText "reason" o.reason)
  have hargs := hreason.seq (reads_optional "updatedArgs" (o := o.updatedArgs)
    (fun args _ => reads_object args) fun args => isShown_object args.members)
  exact hargs.decoder (by decide)

theorem PostOutcome.reads (o : PostOutcome) : decoder.Reads o.encode o := by
  have hresult := (reads_optional "updatedResult" (o := o.updatedResult)
    (fun result _ => result.reads) fun _ => isShown_object _).map mk
  have hfeedback := hresult.seq (reads_optionalText "feedback" o.feedback)
  exact hfeedback.decoder (by decide)

end AgentSessions
