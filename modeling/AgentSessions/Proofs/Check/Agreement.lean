import AgentSessions.Proofs.Check.Consultation
import AgentSessions.Proofs.Hook.PreChain

/-!
# Handlers in one chain, and handlers as checks of their own

A hook engine is itself a check, so the same handlers can stand before a tool in two ways: all in
one engine, or each as a check. Both hear the handlers in the same order with the same arguments,
and both rule alike: the same calls go on with the same arguments, and the others are refused for
the same reason.

They differ in one thing. When a handler denies a call after another one gave arguments, the engine
does not hand on what was given. So the call is refused with the arguments that it came with
(`Permission.Checked.sealed`), where it would be refused with those that the denying handler was
shown if every handler were a check.
-/

set_option autoImplicit false

namespace AgentSessions

open Json (Object)

/-! ## The chain as a row of checks -/

namespace Chain

variable {m : Type → Type} [Monad m] [MonadWarn m] [LawfulMonad m] {β : Type}
  (answer : Handler β → PreRequest → m PreOutcome) (timeout : UInt64) (q : PreRequest)

/-- A handler that always answers is never warned of. -/
theorem consult_answering (h : Handler β) :
    consult (fun h => Reply.answered <$> answer h q) timeout h = some <$> answer h q := by
  rw [consult, bind_map_left, map_eq_pure_bind (some)]
  exact bind_congr fun o => rfl

/-- A chain of handlers that always answer hears them as checks are heard. -/
theorem preAfter_answering (handlers : List (Handler β)) {done : List PreOutcome}
    (hdone : PreOutcome.NoneDenies done) :
    preAfter (fun h q => Reply.answered <$> answer h q) timeout q handlers done =
      PreOutcome.ofAll <$> Permission.hear q (handlers.map answer) done := by
  induction handlers generalizing done with
  | nil => rw [preAfter_nil _ _ _ hdone, List.map_nil, Permission.hear, map_pure]
  | cons h rest ih =>
      rw [preAfter_cons, consult_answering, bind_map_left, List.map_cons, Permission.hear, map_bind]
      refine bind_congr fun o => ?_
      by_cases hdeny : o.decision = .deny
      · have hall : PreOutcome.ofAll (done ++ [o]) = ⟨.deny, o.reason, none⟩ :=
          PreOutcome.ofAll_of_deny hdone hdeny
        simp only [if_pos hdeny, map_pure, hall]
      · simp only [if_neg hdeny, ih (hdone.snoc hdeny)]

end Chain

namespace Permission

/-- What the checks came to, but with other arguments if the call is denied. -/
def Checked.sealed (own : Object) : Checked → Checked
  | .denied reason _ => .denied reason own
  | .passed arguments asked => .passed arguments asked

/-- What a chain says of a call has the same consequence as the answers of its handlers, but for the
arguments of a denial. -/
theorem Checked.ofAll_chain (q : PreRequest) (os : List PreOutcome) :
    ofAll q [PreOutcome.ofAll os] = (ofAll q os).sealed q.arguments := by
  have harguments : ∀ (decision : Decision) (reason : Option String),
      (q.after [⟨decision, reason, PreOutcome.lastArgs os⟩]).arguments =
        (q.after os).arguments := by
    intro decision reason
    rw [PreRequest.after_singleton]
    rfl
  rw [ofAll, ofAll, PreOutcome.ofAll]
  cases os.find? PreOutcome.isDenied with
  | some o => rfl
  | none =>
      cases PreOutcome.firstAsk os with
      | none => exact congrArg (passed · none) (harguments .allow none)
      | some reason => exact congrArg (passed · (some reason)) (harguments .ask reason)

/-! ## The two rulings -/

/-- Whether the call goes on, and with which arguments, or why it is refused. -/
def ruling : Verdict → Except String Object
  | .proceed arguments => .ok arguments
  | .deny reason _ => .error reason

variable {m : Type → Type} [Monad m] [MonadWarn m] {β : Type}

/-- A hook engine with these handlers, which always answer, as a check. -/
def hookCheck (answer : Handler β → PreRequest → m PreOutcome) (timeout : UInt64)
    (handlers : List (Handler β)) : PreRequest → m PreOutcome :=
  (HookRegistry.after (γ := Unit) (handlers.map .registerPre)).runPre
    (fun h q => Reply.answered <$> answer h q) timeout

variable [LawfulMonad m]

theorem hookCheck_eq (answer : Handler β → PreRequest → m PreOutcome) (timeout : UInt64)
    {handlers : List (Handler β)} (horder : Handler.InOrder handlers) {q : PreRequest}
    (hmatch : ∀ h ∈ handlers, h.accepts q.toolName = true) :
    hookCheck answer timeout handlers q = PreOutcome.ofAll <$> hear q (handlers.map answer) [] := by
  have hpre : (HookRegistry.after (γ := Unit) (handlers.map .registerPre)).preFor q.toolName =
      handlers := by
    rw [HookRegistry.preFor, HookRegistry.pre_after_of_inOrder horder]
    exact List.filter_eq_self.mpr hmatch
  have hchain := Chain.preAfter_answering answer timeout q handlers PreOutcome.noneDenies_nil
  rw [hookCheck, HookRegistry.runPre, hpre]
  exact hchain

/-- The ruling does not look at the arguments of a denial. -/
theorem ruling_rule_sealed (confirm : Option (ConfirmationRequest → m (Except HookError Bool)))
    (session : SessionId) (call : ToolCall) (own : Object) (checked : Checked) :
    ruling <$> rule confirm session call (checked.sealed own) =
      ruling <$> rule confirm session call checked := by
  cases checked with
  | denied reason arguments => rw [Checked.sealed, rule, rule, map_pure, map_pure]; rfl
  | passed arguments asked => rfl

/-- **An engine of handlers rules as its handlers would, each as a check of its own.** For handlers
in the order in which they run, that match the tool and always answer, both go through the same
consultation. The calls that it lets pass go on alike, and those that it denies are refused for the
same reason; but the engine refuses them with the arguments that they came with. -/
theorem hookCheck_rules_as_handlers (answer : Handler β → PreRequest → m PreOutcome)
    (timeout : UInt64) {handlers : List (Handler β)} (horder : Handler.InOrder handlers)
    (confirm : Option (ConfirmationRequest → m (Except HookError Bool))) (session : SessionId)
    (call : ToolCall) (hmatch : ∀ h ∈ handlers, h.accepts call.name = true) :
    let consulted := consult session call (handlers.map answer) call.arguments none
    judge (handlers.map answer) confirm session call = consulted >>= rule confirm session call ∧
    judge [hookCheck answer timeout handlers] confirm session call =
      consulted >>= (fun checked => rule confirm session call (checked.sealed call.arguments)) ∧
    ruling <$> judge [hookCheck answer timeout handlers] confirm session call =
      ruling <$> judge (handlers.map answer) confirm session call := by
  intro consulted
  let q := request session call call.arguments
  have hown : judge (handlers.map answer) confirm session call =
      consulted >>= rule confirm session call := judge_eq_consult _ _ _ _
  have hconsulted : consulted = Checked.ofAll q <$> hear q (handlers.map answer) [] :=
    consult_after session call (handlers.map answer) PreOutcome.noneDenies_nil
  -- the engine is heard alone, and its outcome is what its handlers' answers come to
  have hengine : judge [hookCheck answer timeout handlers] confirm session call =
      consulted >>= fun checked => rule confirm session call (checked.sealed call.arguments) := by
    rw [judge_eq_hear, hconsulted]
    show hear q [hookCheck answer timeout handlers] [] >>= _ = _
    rw [hear_singleton, hookCheck_eq answer timeout horder (q := q) hmatch]
    simp only [bind_map_left, Checked.ofAll_chain]
    rfl
  refine ⟨hown, hengine, ?_⟩
  rw [hown, hengine, map_bind, map_bind]
  exact bind_congr fun checked => ruling_rule_sealed confirm session call call.arguments checked

/-! ## A call that is redirected and then refused -/

/-- The arguments of a call that reads a file. -/
def pathTo (file : String) : Object := Object.empty.insert "path" (.string file)

/-- A call that reads a file nobody should read. -/
def reading : ToolCall := ⟨⟨"c1"⟩, "read", pathTo "secret.txt"⟩

/-- A handler sends the call to another file, and the next one denies it. -/
def redirectedAndRefused : List (Handler PreOutcome) :=
  [⟨"rewriter", 10, none, fun _ => true, .allowWith (pathTo "safe.txt")⟩,
    ⟨"guard", 0, none, fun _ => true, .deny "not today"⟩]

theorem inOrder_redirectedAndRefused : Handler.InOrder redirectedAndRefused :=
  ⟨by decide, by decide⟩

/-- Each handler gives its outcome, whatever the call. -/
def outright (h : Handler PreOutcome) (_ : PreRequest) : Id PreOutcome :=
  pure h.behaviour

/-- Both ways refuse the call, and for the same reason. -/
theorem hookCheck_rules_as_handlers_reading :
    Handler.InOrder redirectedAndRefused ∧
    (∀ h ∈ redirectedAndRefused, h.accepts reading.name = true) ∧
    ruling (judge [hookCheck outright 100 redirectedAndRefused] none default reading).run =
      .error "not today" := by
  have hmatch : ∀ h ∈ redirectedAndRefused, h.accepts reading.name = true := by decide
  have hrules := hookCheck_rules_as_handlers outright 100 inOrder_redirectedAndRefused none default
    reading hmatch
  exact ⟨inOrder_redirectedAndRefused, hmatch, hrules.2.2.trans rfl⟩

/-- The engine refuses it with the arguments that it came with, and not with those that the handler
was shown which refused it. -/
theorem redirected_arguments_are_lost :
    Handler.InOrder redirectedAndRefused ∧
    (∀ h ∈ redirectedAndRefused, h.accepts reading.name = true) ∧
    judge (redirectedAndRefused.map outright) none default reading =
      (pure (.deny "not today" (pathTo "safe.txt")) : Id Verdict) ∧
    judge [hookCheck outright 100 redirectedAndRefused] none default reading =
      (pure (.deny "not today" (pathTo "secret.txt")) : Id Verdict) ∧
    Verdict.deny "not today" (pathTo "safe.txt") ≠ .deny "not today" (pathTo "secret.txt") := by
  have hmatch : ∀ h ∈ redirectedAndRefused, h.accepts reading.name = true := by decide
  have hengine : judge [hookCheck outright 100 redirectedAndRefused] none default reading =
      judge [fun q => PreOutcome.ofAll <$> hear q (redirectedAndRefused.map outright) []] none
        default reading := by
    rw [judge_eq_hear, judge_eq_hear]
    simp only [hear_singleton]
    rw [hookCheck_eq outright 100 inOrder_redirectedAndRefused (q := request _ reading _) hmatch]
  exact ⟨inOrder_redirectedAndRefused, hmatch, rfl, hengine.trans rfl, by decide⟩

end Permission

end AgentSessions
