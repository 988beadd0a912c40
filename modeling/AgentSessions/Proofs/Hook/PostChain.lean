import AgentSessions.Proofs.Hook.PreChain

/-!
# The chain of handlers for a result

A chain for a result hears all its handlers, and comes to what their answers come to: the result
that was given last, and all feedback, a line or more for each. As with calls, its state is nothing
but the answers so far, so a chain is run from these (`postAfter`), and who is heard is a walk of
its own (`postHearings`), which is shorter only by the handlers that are not there.

What is said about feedback holds of texts with more than one line as well: a piece of feedback
`StandsIn` the content if it stands there between two ends of lines.
-/

set_option autoImplicit false

namespace AgentSessions

/-! ## What answers come to -/

namespace PostOutcome

/-- The result that was given last. -/
def lastResult (os : List PostOutcome) : Option ToolOutcome :=
  (os.filterMap updatedResult).getLast?

/-- All feedback, in the order in which it was given. -/
def notes (os : List PostOutcome) : List String :=
  os.filterMap feedback

/-- What the answers come to. -/
def ofAll (os : List PostOutcome) : PostOutcome :=
  ⟨lastResult os, if (notes os).isEmpty then none else some ("\n".intercalate (notes os))⟩

theorem lastResult_append (os os' : List PostOutcome) :
    lastResult (os ++ os') = (lastResult os').or (lastResult os) := by
  rw [lastResult, List.filterMap_append, List.getLast?_append]
  rfl

theorem lastResult_singleton (o : PostOutcome) : lastResult [o] = o.updatedResult := by
  rw [lastResult]
  cases h : o.updatedResult with
  | none => rw [List.filterMap_cons_none h]; rfl
  | some result => rw [List.filterMap_cons_some h]; rfl

theorem notes_append (os os' : List PostOutcome) : notes (os ++ os') = notes os ++ notes os' :=
  List.filterMap_append

theorem notes_singleton (o : PostOutcome) : notes [o] = o.feedback.toList := by
  rw [notes]
  cases h : o.feedback with
  | none => rw [List.filterMap_cons_none h]; rfl
  | some note => rw [List.filterMap_cons_some h]; rfl

end PostOutcome

/-- The request with the result that the answers leave. -/
def PostRequest.after (q : PostRequest) (os : List PostOutcome) : PostRequest :=
  { q with result := (PostOutcome.lastResult os).getD q.result }

theorem PostRequest.after_append (q : PostRequest) (os os' : List PostOutcome) :
    q.after (os ++ os') = (q.after os).after os' := by
  simp only [after, PostOutcome.lastResult_append]
  cases PostOutcome.lastResult os' <;> rfl

theorem PostRequest.after_singleton (q : PostRequest) (o : PostOutcome) :
    q.after [o] = { q with result := o.updatedResult.getD q.result } := by
  rw [after, PostOutcome.lastResult_singleton]

/-! ## What becomes of feedback -/

/-- A text stands in another one between two ends of lines. -/
def StandsIn (note content : String) : Prop :=
  ∃ front back, content = front ++ note ++ back ∧
    (front = "" ∨ ∃ lines, front = lines ++ "\n") ∧ (back = "" ∨ ∃ lines, back = "\n" ++ lines)

theorem standsIn_intercalate {note : String} {notes : List String} (h : note ∈ notes) :
    StandsIn note ("\n".intercalate notes) := by
  obtain ⟨before, after, rfl⟩ := List.append_of_mem h
  have hlast : ∃ back, "\n".intercalate (note :: after) = note ++ back ∧
      (back = "" ∨ ∃ lines, back = "\n" ++ lines) := by
    cases after with
    | nil => exact ⟨"", by rw [String.intercalate_singleton, String.append_empty], .inl rfl⟩
    | cons next rest =>
        exact ⟨"\n" ++ "\n".intercalate (next :: rest),
          by rw [String.intercalate_cons_cons, String.append_assoc], .inr ⟨_, rfl⟩⟩
  obtain ⟨back, hlast, hback⟩ := hlast
  cases before with
  | nil => exact ⟨"", back, by rw [List.nil_append, hlast, String.empty_append], .inl rfl, hback⟩
  | cons first rest =>
      refine ⟨"\n".intercalate (first :: rest) ++ "\n", back, ?_, .inr ⟨_, rfl⟩, hback⟩
      rw [String.intercalate_append_of_ne_nil (List.cons_ne_nil _ _) (List.cons_ne_nil _ _), hlast,
        String.append_assoc, String.append_assoc, String.append_assoc]

/-- What stands in feedback stands in the content to which the feedback is added. -/
theorem StandsIn.addFeedback {note feedback : String} (h : StandsIn note feedback)
    (content : String) : StandsIn note (PostOutcome.addFeedback content feedback) := by
  obtain ⟨front, back, rfl, hfront, hback⟩ := h
  rw [PostOutcome.addFeedback]
  by_cases hempty : content.isEmpty = true
  · rw [if_pos hempty]
    exact ⟨front, back, rfl, hfront, hback⟩
  · rw [if_neg hempty]
    refine ⟨content ++ "\n\n" ++ front, back, ?_, .inr ?_, hback⟩
    · rw [String.append_assoc, String.append_assoc, String.append_assoc, String.append_assoc,
        String.append_assoc]
    · obtain rfl | ⟨lines, rfl⟩ := hfront
      · exact ⟨content ++ "\n", by rw [String.append_empty, String.append_assoc]; rfl⟩
      · exact ⟨content ++ "\n\n" ++ lines, (String.append_assoc).symm⟩

/-- All feedback stands in the content, whether or not a later answer gave another result. -/
theorem standsIn_apply_ofAll {os : List PostOutcome} {o : PostOutcome} {note : String}
    (ho : o ∈ os) (hnote : o.feedback = some note) (result : ToolOutcome) :
    StandsIn note ((PostOutcome.ofAll os).apply result).content := by
  have hmem : note ∈ PostOutcome.notes os := List.mem_filterMap.mpr ⟨o, ho, hnote⟩
  have hsome : ¬(PostOutcome.notes os).isEmpty = true := by
    rw [List.isEmpty_iff]
    exact List.ne_nil_of_mem hmem
  rw [PostOutcome.apply, PostOutcome.ofAll, if_neg hsome]
  exact (standsIn_intercalate hmem).addFeedback _

/-! ## Hearings -/

/-- Each of `all` is heard on the result of `request`, in turn and with the result that the answers
before left. -/
structure AllHeard {ω : Type} (all : List ω) (request : PostRequest)
    (log : List (Hearing ω PostRequest PostOutcome)) : Prop where
  inTurn : log.map Hearing.who = all
  shown : ∀ before h rest, log = before ++ h :: rest →
    h.request = request.after (answers before)

namespace AllHeard

variable {ω : Type} {all : List ω} {log : List (Hearing ω PostRequest PostOutcome)}

theorem nil (request : PostRequest) : AllHeard ([] : List ω) request [] where
  inTurn := rfl
  shown _ _ _ h := absurd h.symm (by simp)

theorem cons {h : Hearing ω PostRequest PostOutcome}
    (hlog : AllHeard all (h.request.after (answers [h])) log) :
    AllHeard (h.who :: all) h.request (h :: log) where
  inTurn := congrArg (h.who :: ·) hlog.inTurn
  shown before k rest heq := by
    obtain ⟨rfl, hk⟩ | ⟨before, rfl, hbefore⟩ := List.cons_eq_append_iff.mp heq
    · rw [(List.cons.inj hk).1]
      rfl
    · rw [answers_cons, PostRequest.after_append]
      exact hlog.shown before k rest hbefore

end AllHeard

namespace Chain

variable {γ : Type}

/-- The hearings of these handlers. -/
def postHearings (reply : Handler γ → PostRequest → Reply PostOutcome) :
    List (Handler γ) → PostRequest → List (Hearing (Handler γ) PostRequest PostOutcome)
  | [], _ => []
  | h :: rest, q =>
      ⟨h, q, reply h q⟩ :: postHearings reply rest (q.after (reply h q).answer?.toList)

/-! ## The state of a chain -/

section State

variable {m : Type → Type} [Monad m] [MonadWarn m]
  (ask : Handler γ → PostRequest → m (Reply PostOutcome)) (timeout : UInt64) (q : PostRequest)

/-- The chain of these handlers after the answers of others. -/
def postAfter (handlers : List (Handler γ)) (done : List PostOutcome) : m PostOutcome :=
  post ask timeout handlers (q.after done) (PostOutcome.lastResult done).isSome
    (PostOutcome.notes done)

theorem postAfter_nil (done : List PostOutcome) :
    postAfter ask timeout q [] done = pure (PostOutcome.ofAll done) := by
  rw [PostOutcome.ofAll, postAfter, post]
  cases hresult : PostOutcome.lastResult done with
  | none => rfl
  | some result => simp [PostRequest.after, hresult]

/-- One more answer is one more in the state. -/
theorem postAfter_cons (h : Handler γ) (rest : List (Handler γ)) (done : List PostOutcome) :
    postAfter ask timeout q (h :: rest) done = (do
      let answer? ← consult (ask · (q.after done)) timeout h
      postAfter ask timeout q rest (done ++ answer?.toList)) := by
  rw [postAfter, post]
  congr 1
  funext answer?
  cases answer? with
  | none => rw [Option.toList_none, List.append_nil]; rfl
  | some o =>
      have hresult : (PostOutcome.lastResult (done ++ [o])).isSome =
          ((PostOutcome.lastResult done).isSome || o.updatedResult.isSome) := by
        rw [PostOutcome.lastResult_append, PostOutcome.lastResult_singleton, Option.isSome_or,
          Bool.or_comm]
      rw [Option.toList_some, postAfter, hresult, PostRequest.after_append,
        PostRequest.after_singleton, PostOutcome.notes_append, PostOutcome.notes_singleton]

end State

/-! ## The walk -/

section Walk

variable (reply : Handler γ → PostRequest → Reply PostOutcome)

/-- The reply at each hearing is the handler's own. -/
theorem reply_of_mem_postHearings (handlers : List (Handler γ)) (q : PostRequest) :
    ∀ h ∈ postHearings reply handlers q, h.reply = reply h.who h.request := by
  induction handlers generalizing q with
  | nil => exact fun h hh => absurd hh List.not_mem_nil
  | cons k rest ih => exact List.forall_mem_cons.mpr ⟨rfl, ih _⟩

theorem answers_singleton (h : Hearing (Handler γ) PostRequest PostOutcome) :
    answers [h] = h.reply.answer?.toList := by
  cases hanswer : h.reply.answer? with
  | none => exact answers_singleton_of_failure hanswer
  | some o => exact answers_singleton_of_answer hanswer

theorem allHeard_postHearings (handlers : List (Handler γ)) (q : PostRequest) :
    AllHeard handlers q (postHearings reply handlers q) := by
  induction handlers generalizing q with
  | nil => exact .nil q
  | cons k rest ih =>
      refine AllHeard.cons (h := ⟨k, q, reply k q⟩) ?_
      rw [answers_singleton]
      exact ih _

/-- After some answers the chain comes to what these and the answers of its handlers come to. -/
theorem postAfter_minuting (timeout : UInt64) (handlers : List (Handler γ)) (q : PostRequest)
    (done : List PostOutcome) (m : Minutes (Handler γ) PostRequest PostOutcome) :
    (postAfter (minuting reply) timeout q handlers done).run m =
      (PostOutcome.ofAll (done ++ answers (postHearings reply handlers (q.after done))),
        extend m timeout (postHearings reply handlers (q.after done))) := by
  induction handlers generalizing done m with
  | nil =>
      rw [postAfter_nil, postHearings, extend_nil]
      show (PostOutcome.ofAll done, m) = (PostOutcome.ofAll (done ++ []), m)
      rw [List.append_nil]
  | cons k rest ih =>
      rw [postHearings, answers_cons, answers_singleton, extend_cons, ← List.append_assoc,
        ← PostRequest.after_append, postAfter_cons, StateT.run_bind, consult_minuting]
      exact ih _ _

/-- The walk without handlers that do not answer is the walk with them, less their hearings. -/
theorem postHearings_filter {keep : Handler γ → Bool} {handlers : List (Handler γ)}
    {q : PostRequest}
    (hkeep : ∀ h ∈ postHearings reply handlers q, keep h.who = false → h.reply.answer? = none) :
    postHearings reply (handlers.filter keep) q =
      (postHearings reply handlers q).filter fun h => keep h.who := by
  induction handlers generalizing q with
  | nil => rfl
  | cons k rest ih =>
      have hrest := ih fun h hh => hkeep h (List.mem_cons_of_mem _ hh)
      cases hk : keep k with
      | true => simp only [List.filter_cons, hk, if_true, postHearings, hrest]
      | false =>
          have hfailed : (reply k q).answer? = none := hkeep ⟨k, q, reply k q⟩
            List.mem_cons_self hk
          rw [hfailed] at hrest
          simp only [List.filter_cons, hk, Bool.false_eq_true, if_false, postHearings, hfailed,
            ← hrest]
          rfl

end Walk

end Chain

/-! ## Running a registry -/

namespace HookRegistry

variable {β γ : Type}

/-- What the handlers for a result come to, and the minutes of it. -/
def reviewed (r : HookRegistry β γ) (reply : Handler γ → PostRequest → Reply PostOutcome)
    (timeout : UInt64) (q : PostRequest) :
    PostOutcome × Minutes (Handler γ) PostRequest PostOutcome :=
  (r.runPost (minuting reply) timeout q).run ⟨[], []⟩

variable (reply : Handler γ → PostRequest → Reply PostOutcome) (timeout : UInt64) (q : PostRequest)

theorem reviewed_eq (r : HookRegistry β γ) :
    r.reviewed reply timeout q =
      let log := Chain.postHearings reply (r.postFor q.toolName) q
      (PostOutcome.ofAll (answers log), ⟨log, Chain.warningsOf timeout log⟩) :=
  Chain.postAfter_minuting reply timeout (r.postFor q.toolName) q [] ⟨[], []⟩

/-- The minutes of a run: all handlers were heard, and their answers are what it came to. -/
theorem reviewed_spec (r : HookRegistry β γ) :
    let run := r.reviewed reply timeout q
    AllHeard (r.postFor q.toolName) q run.2.hearings ∧
      (∀ h ∈ run.2.hearings, h.reply = reply h.who h.request) ∧
      run.1 = PostOutcome.ofAll (answers run.2.hearings) ∧
      run.2.warnings = Chain.warningsOf timeout run.2.hearings := by
  rw [reviewed_eq]
  exact ⟨Chain.allHeard_postHearings reply _ q, Chain.reply_of_mem_postHearings reply _ q, rfl, rfl⟩

/-- Handlers that failed can be removed: their hearings are missing then, and nothing else. -/
theorem reviewed_unregister (changes : List (Change β γ)) {names : List String}
    (hnames : ∀ name ∈ names, ∃ h ∈ ((after changes).reviewed reply timeout q).2.hearings,
      h.who.name = name ∧ h.reply.answer? = none) :
    (names.foldl unregister (after changes)).reviewed reply timeout q =
      let run := (after changes).reviewed reply timeout q
      let heard := run.2.hearings.filter fun h => h.who.name ∉ names
      (run.1, ⟨heard, Chain.warningsOf timeout heard⟩) := by
  rw [reviewed_eq] at hnames
  have hheard := Chain.allHeard_postHearings reply ((after changes).postFor q.toolName) q
  have hturn : ((Chain.postHearings reply ((after changes).postFor q.toolName) q).map
      Hearing.who).Sublist ((after changes).postFor q.toolName) := by
    rw [hheard.inTurn]
  have hfailed := failed_of_named (inOrder_postFor changes q.toolName) hturn hnames
  have hwalk : Chain.postHearings reply
      (((after changes).postFor q.toolName).filter fun h => h.name ∉ names) q =
      (Chain.postHearings reply ((after changes).postFor q.toolName) q).filter
        fun h => h.who.name ∉ names :=
    Chain.postHearings_filter reply hfailed
  rw [reviewed_eq, reviewed_eq, postFor_unregister, hwalk]
  dsimp only
  rw [answers_filter hfailed]

end HookRegistry

end AgentSessions
