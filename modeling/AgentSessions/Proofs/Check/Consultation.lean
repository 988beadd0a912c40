import AgentSessions.Check.Permission
import AgentSessions.Proofs.Hook.Hearings

/-!
# Consulting checks

To consult checks is to hear them up to the first denial (`hear`), and then to look at their answers
alone. Nothing else is kept on the way: the arguments are those that the answers leave, and the
reason to ask for a confirmation is the first that one of them gives. So whatever comes of the
checks is a function of their answers (`Permission.Checked.ofAll`), and the verdict is a ruling on
that (`Permission.rule`).

This holds in every lawful monad, hence for checks that answer at random, remember what they saw, or
ask others.
-/

set_option autoImplicit false

namespace AgentSessions

open Json (Object)

namespace Permission

variable {m : Type → Type} [Monad m]

/-- Hears the checks up to the first denial, each with the arguments that the answers before it
left, and hands back all answers. -/
def hear (q : PreRequest) :
    List (PreRequest → m PreOutcome) → (done : List PreOutcome) → m (List PreOutcome)
  | [], done => pure done
  | check :: rest, done => do
      let o ← check (q.after done)
      if o.decision = .deny then pure (done ++ [o]) else hear q rest (done ++ [o])

/-- A single check is heard, and that is all. -/
theorem hear_singleton [LawfulMonad m] (q : PreRequest) (check : PreRequest → m PreOutcome) :
    hear q [check] [] = (fun o => [o]) <$> check q := by
  rw [hear, map_eq_pure_bind]
  exact bind_congr fun o => ite_self _

/-- What the checks come to that gave these answers. -/
def Checked.ofAll (q : PreRequest) (os : List PreOutcome) : Checked :=
  match os.find? PreOutcome.isDenied with
  | some o => .denied (o.reason.getD unexplained) (q.after os).arguments
  | none => .passed (q.after os).arguments (PreOutcome.firstAsk os)

theorem Checked.ofAll_of_noneDenies (q : PreRequest) {os : List PreOutcome}
    (h : PreOutcome.NoneDenies os) :
    ofAll q os = .passed (q.after os).arguments (PreOutcome.firstAsk os) := by
  rw [ofAll, PreOutcome.noneDenies_iff.mp h]

theorem Checked.ofAll_of_deny (q : PreRequest) {os : List PreOutcome} {o : PreOutcome}
    (h : PreOutcome.NoneDenies os) (ho : o.decision = .deny) :
    ofAll q (os ++ [o]) =
      .denied (o.reason.getD unexplained) (o.updatedArgs.getD (q.after os).arguments) := by
  rw [ofAll, List.find?_append, PreOutcome.noneDenies_iff.mp h,
    List.find?_cons_of_pos (PreOutcome.isDenied_iff.mpr ho), PreRequest.after_append,
    PreRequest.after_singleton]
  rfl

/-- Consulting checks after some answers is to hear them and to look at all answers. -/
theorem consult_after [LawfulMonad m] (session : SessionId) (call : ToolCall)
    (checks : List (PreRequest → m PreOutcome)) {done : List PreOutcome}
    (hdone : PreOutcome.NoneDenies done) :
    let q := request session call call.arguments
    consult session call checks (q.after done).arguments (PreOutcome.firstAsk done) =
      Checked.ofAll q <$> hear q checks done := by
  intro q
  induction checks generalizing done with
  | nil => rw [consult, hear, map_pure, Checked.ofAll_of_noneDenies q hdone]
  | cons check rest ih =>
      rw [consult, hear, map_bind]
      refine bind_congr fun o => ?_
      by_cases hdeny : o.decision = .deny
      · rw [if_pos hdeny, map_pure, Checked.ofAll_of_deny q hdone hdeny]
        simp only [hdeny]
      · -- the answer is one more in the state, and the induction goes on from there
        have hnext := ih (hdone.snoc hdeny)
        rw [PreRequest.after_append, PreRequest.after_singleton, PreOutcome.firstAsk_append]
          at hnext
        rw [if_neg hdeny, ← hnext]
        cases hdecision : o.decision with
        | deny => exact absurd hdecision hdeny
        | allow => rw [PreOutcome.firstAsk_singleton_of_allow hdecision, Option.or_none]
        | ask => rw [PreOutcome.firstAsk_singleton_of_ask hdecision]

/-! ## The ruling -/

variable [MonadWarn m]

/-- Decides on a call, given what the checks come to. -/
def rule (confirm : Option (ConfirmationRequest → m (Except HookError Bool)))
    (session : SessionId) (call : ToolCall) : Checked → m Verdict
  | .denied reason arguments => pure (.deny reason arguments)
  | .passed arguments asked =>
      match asked, confirm with
      | some reason, some confirm => confirmed confirm session call arguments reason
      | _, _ => pure (.proceed arguments)

variable (checks : List (PreRequest → m PreOutcome))
  (confirm : Option (ConfirmationRequest → m (Except HookError Bool))) (session : SessionId)
  (call : ToolCall)

/-- To judge a call is to consult the checks and to rule on what they come to. -/
theorem judge_eq_consult :
    judge checks confirm session call =
      consult session call checks call.arguments none >>= rule confirm session call := by
  refine bind_congr fun checked => ?_
  cases checked <;> rfl

/-- To judge a call is to hear the checks and to rule on their answers. -/
theorem judge_eq_hear [LawfulMonad m] :
    judge checks confirm session call = (do
      let q := request session call call.arguments
      let os ← hear q checks []
      rule confirm session call (Checked.ofAll q os)) := by
  have hconsult := consult_after session call checks PreOutcome.noneDenies_nil
  rw [judge_eq_consult]
  refine (congrArg (· >>= rule confirm session call) hconsult).trans ?_
  exact bind_map_left _ _ _

end Permission

end AgentSessions
