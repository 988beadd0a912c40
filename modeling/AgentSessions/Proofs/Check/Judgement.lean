import AgentSessions.Proofs.Check.Consultation
import AgentSessions.Proofs.Dialogue.Paths

/-!
# How a call is judged

On every path through the judgement of a call its checks are heard in turn, up to the first denial,
and then the one who confirms is asked, if nobody denied and somebody wanted that. The verdict
follows from the answers of these alone (`Ruled`), and carries the arguments that were given last.

The checks and the one who confirms may ask others in turn, and need not answer alike when they are
asked again.
-/

set_option autoImplicit false

namespace AgentSessions

open Json (Object)

/-! ## Dialogues as a lawful monad -/

namespace Dialogue

variable {α β γ : Type}

theorem bind_done (d : Dialogue α) : d.bind .done = d := by
  induction d with
  | done a => rfl
  | ask question next ih => exact congrArg (Dialogue.ask question) (funext ih)

theorem bind_bind (d : Dialogue α) (f : α → Dialogue β) (g : β → Dialogue γ) :
    (d.bind f).bind g = d.bind fun a => (f a).bind g := by
  induction d with
  | done a => rfl
  | ask question next ih => exact congrArg (Dialogue.ask question) (funext ih)

instance : LawfulMonad Dialogue :=
  LawfulMonad.mk' Dialogue bind_done (fun _ _ => rfl) bind_bind

end Dialogue

/-- The arguments that a verdict is about. -/
def Verdict.arguments : Verdict → Object
  | proceed arguments => arguments
  | deny _ arguments => arguments

namespace Permission

/-! ## Hearing the checks -/

/-- The exchanges in which checks were heard. -/
inductive Heard : List (Hearing (PreRequest → Dialogue PreOutcome) PreRequest PreOutcome) →
    List Exchange → Prop where
  | nil : Heard [] []
  | cons {check : PreRequest → Dialogue PreOutcome} {q : PreRequest} {o : PreOutcome}
      {trace rest : List Exchange}
      {log : List (Hearing (PreRequest → Dialogue PreOutcome) PreRequest PreOutcome)} :
      (check q).Leads trace (.done o) → Heard log rest →
      Heard (⟨check, q, .answered o⟩ :: log) (trace ++ rest)

theorem keeps_hear (q : PreRequest) (checks : List (PreRequest → Dialogue PreOutcome))
    {done : List PreOutcome} (hdone : PreOutcome.NoneDenies done) :
    (hear q checks done).Keeps fun trace os => ∃ log,
      HeardInTurn checks (q.after done) log ∧ Heard log trace ∧ os = done ++ answers log := by
  induction checks generalizing done with
  | nil => exact ⟨[], .nil _, .nil, (List.append_nil done).symm⟩
  | cons check rest ih =>
      refine Dialogue.keeps_bind.mpr (Dialogue.keeps_iff.mpr fun trace o hpath => ?_)
      let h : Hearing (PreRequest → Dialogue PreOutcome) PreRequest PreOutcome :=
        ⟨check, q.after done, .answered o⟩
      have hanswer : answers [h] = [o] := answers_singleton_of_answer rfl
      by_cases hdeny : o.decision = .deny
      · -- nobody is heard after it
        rw [if_pos hdeny]
        exact ⟨[h], .denied (h := h) ⟨o, rfl, hdeny⟩, .cons hpath .nil, by rw [hanswer]⟩
      · rw [if_neg hdeny]
        refine (ih (hdone.snoc hdeny)).mono fun more os hmore => ?_
        obtain ⟨log, hturn, hheard, rfl⟩ := hmore
        have hnot : ¬ h.Denies := by
          rintro ⟨o', ho', hdeny'⟩
          cases ho'
          exact hdeny hdeny'
        rw [PreRequest.after_append, ← hanswer] at hturn
        refine ⟨h :: log, .cons (h := h) hnot hturn, .cons hpath hheard, ?_⟩
        rw [answers_cons h, hanswer, List.append_assoc]

/-! ## The ruling -/

/-- A confirmation that failed is warned of. -/
def failureOf : Except HookError Bool → List Exchange
  | .ok _ => []
  | .error e => [⟨.warn (.confirmationFailed e.message), ()⟩]

/-- The ruling on a call after the answers `os` of its checks: `told` is the answer of the one who
was asked to confirm, and `asking` the exchanges with that one. -/
structure Ruled (confirm : Option (ConfirmationRequest → Dialogue (Except HookError Bool)))
    (session : SessionId) (call : ToolCall) (os : List PreOutcome)
    (told : Option (Except HookError Bool)) (asking : List Exchange) (verdict : Verdict) :
    Prop where
  /-- Somebody is asked to confirm just if nobody denied, some check wants it and there is one to
  ask. -/
  asked : told.isSome ↔
    PreOutcome.NoneDenies os ∧ (PreOutcome.firstAsk os).isSome ∧ confirm.isSome
  /-- Otherwise nothing more is exchanged. -/
  unasked : told = none → asking = []
  /-- The one question has the final arguments and the reason of the first check that asked. -/
  question : ∀ answer, told = some answer → ∃ ask reason exchanges,
    confirm = some ask ∧ PreOutcome.firstAsk os = some reason ∧
    (ask ⟨session, call.name, ((request session call call.arguments).after os).arguments,
      reason⟩).Leads exchanges (.done answer) ∧
    asking = exchanges ++ failureOf answer
  /-- The call goes on just if nobody denied it and whoever was asked said yes. -/
  proceeds : (∃ arguments, verdict = .proceed arguments) ↔
    PreOutcome.NoneDenies os ∧ ∀ answer, told = some answer → answer = .ok true
  /-- The verdict carries the arguments that were given last. -/
  arguments : verdict.arguments = ((request session call call.arguments).after os).arguments

theorem not_proceed_deny (reason : String) (arguments : Object) :
    ¬ ∃ arguments', Verdict.deny reason arguments = .proceed arguments' := by
  rintro ⟨arguments', h⟩
  cases h

section Ruling

variable {confirm : Option (ConfirmationRequest → Dialogue (Except HookError Bool))}
  {session : SessionId} {call : ToolCall} {os : List PreOutcome}

theorem ruled_denied (hdenied : ¬ PreOutcome.NoneDenies os) (reason : String) :
    Ruled confirm session call os none []
      (.deny reason ((request session call call.arguments).after os).arguments) where
  asked := iff_of_false (by simp) fun h => hdenied h.1
  unasked _ := rfl
  question _ h := nomatch h
  proceeds := iff_of_false (not_proceed_deny _ _) fun h => hdenied h.1
  arguments := rfl

theorem ruled_unasked (hnone : PreOutcome.NoneDenies os)
    (hunasked : PreOutcome.firstAsk os = none ∨ confirm = none) :
    Ruled confirm session call os none []
      (.proceed ((request session call call.arguments).after os).arguments) where
  asked := by
    refine iff_of_false (by simp) fun h => ?_
    obtain hask | hconfirm := hunasked
    · rw [hask] at h
      cases h.2.1
    · rw [hconfirm] at h
      cases h.2.2
  unasked _ := rfl
  question _ h := nomatch h
  proceeds := iff_of_true ⟨_, rfl⟩ ⟨hnone, fun _ h => nomatch h⟩
  arguments := rfl

theorem ruled_asked (hnone : PreOutcome.NoneDenies os)
    {ask : ConfirmationRequest → Dialogue (Except HookError Bool)} {reason : Option String}
    (hask : PreOutcome.firstAsk os = some reason) {answer : Except HookError Bool}
    {exchanges : List Exchange}
    (hpath : (ask ⟨session, call.name, ((request session call call.arguments).after os).arguments,
      reason⟩).Leads exchanges (.done answer)) (verdict : Verdict)
    (hverdict : (∃ arguments, verdict = .proceed arguments) ↔ answer = .ok true)
    (harguments : verdict.arguments = ((request session call call.arguments).after os).arguments) :
    Ruled (some ask) session call os (some answer) (exchanges ++ failureOf answer) verdict where
  asked := iff_of_true rfl ⟨hnone, by rw [hask]; rfl, rfl⟩
  unasked h := nomatch h
  question answer' h := by
    cases h
    exact ⟨ask, reason, exchanges, rfl, hask, hpath, rfl⟩
  proceeds := by
    rw [hverdict]
    refine ⟨fun h => ⟨hnone, fun answer' h' => ?_⟩, fun h => h.2 answer rfl⟩
    cases h'
    exact h
  arguments := harguments

theorem keeps_rule :
    (rule confirm session call (Checked.ofAll (request session call call.arguments) os)).Keeps
      fun asking verdict => ∃ told, Ruled confirm session call os told asking verdict := by
  -- denied; allowed, or nobody there to ask; asked, with one of three answers
  cases hfind : os.find? PreOutcome.isDenied with
  | some o =>
      have hdenied : ¬ PreOutcome.NoneDenies os := by
        rw [PreOutcome.noneDenies_iff, hfind]
        simp
      rw [Checked.ofAll, hfind]
      exact ⟨none, ruled_denied hdenied _⟩
  | none =>
      have hnone : PreOutcome.NoneDenies os := PreOutcome.noneDenies_iff.mpr hfind
      rw [Checked.ofAll_of_noneDenies _ hnone]
      cases hask : PreOutcome.firstAsk os with
      | none =>
          exact ⟨none, ruled_unasked hnone (.inl hask)⟩
      | some reason =>
          cases hconfirm : confirm with
          | none =>
              exact ⟨none, ruled_unasked hnone (.inr rfl)⟩
          | some ask =>
              refine Dialogue.keeps_bind.mpr
                (Dialogue.keeps_iff.mpr fun exchanges answer hpath => ?_)
              have hruled := ruled_asked hnone hask hpath
              cases answer with
              | ok yes =>
                  cases yes with
                  | true => exact ⟨_, hruled _ (iff_of_true ⟨_, rfl⟩ rfl) rfl⟩
                  | false =>
                      have hno : (Except.ok false : Except HookError Bool) ≠ .ok true := by simp
                      exact ⟨_, hruled _ (iff_of_false (not_proceed_deny _ _) hno) rfl⟩
              | error e =>
                  intro _
                  have hno : (Except.error e : Except HookError Bool) ≠ .ok true := by simp
                  exact ⟨_, hruled _ (iff_of_false (not_proceed_deny _ _) hno) rfl⟩

end Ruling

/-- In these exchanges the call was judged: the checks were heard in turn, then the one who confirms
was asked if that was wanted, and the verdict is the ruling on what they answered. -/
def Judges (checks : List (PreRequest → Dialogue PreOutcome))
    (confirm : Option (ConfirmationRequest → Dialogue (Except HookError Bool)))
    (session : SessionId) (call : ToolCall) (trace : List Exchange) (verdict : Verdict) : Prop :=
  ∃ log heard told asking, trace = heard ++ asking ∧
    HeardInTurn checks (request session call call.arguments) log ∧ Heard log heard ∧
    Ruled confirm session call (answers log) told asking verdict

/-- On every path through a judgement the call is judged. -/
theorem judges_of_leads {checks : List (PreRequest → Dialogue PreOutcome)}
    {confirm : Option (ConfirmationRequest → Dialogue (Except HookError Bool))}
    {session : SessionId} {call : ToolCall} {trace : List Exchange} {verdict : Verdict}
    (h : (judge checks confirm session call).Leads trace (.done verdict)) :
    Judges checks confirm session call trace verdict := by
  suffices hkeeps : (judge checks confirm session call).Keeps
      (Judges checks confirm session call) from
    Dialogue.keeps_iff.mp hkeeps trace verdict h
  rw [judge_eq_hear]
  refine Dialogue.keeps_bind.mpr ((keeps_hear _ checks PreOutcome.noneDenies_nil).mono ?_)
  rintro heard _ ⟨log, hturn, hheard, rfl⟩
  refine keeps_rule.mono fun asking verdict hruled => ?_
  obtain ⟨told, hruled⟩ := hruled
  exact ⟨log, heard, told, asking, rfl, hturn, hheard, hruled⟩

end Permission

end AgentSessions
