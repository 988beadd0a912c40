import AgentSessions.Hook.Chain

/-!
# Hearings

Those who have a say in a call, the handlers of a chain or the checks before a tool, are heard one
after another, and each hearing is a request and the reply to it. `HeardInTurn` says how a row of
hearings goes: in turn, each with the arguments as the answers before it left them, and up to the
first denial. A reply that is no answer leaves everything as it was.

What all answers come to is said of their list alone: the first denial counts (`PreOutcome.ofAll`),
then the first question for a confirmation, and the arguments that were given last.
-/

set_option autoImplicit false

namespace AgentSessions

open Json (Object)

/-! ## What answers come to -/

namespace PreOutcome

/-- The arguments that were given last. -/
def lastArgs (os : List PreOutcome) : Option Object :=
  (os.filterMap updatedArgs).getLast?

/-- The reason of the first one that asked for a confirmation. -/
def firstAsk (os : List PreOutcome) : Option (Option String) :=
  (os.find? fun o => o.decision == .ask).map reason

/-- What the answers come to. Who denies first has the last word, and then the arguments that were
given do not count. -/
def ofAll (os : List PreOutcome) : PreOutcome :=
  match os.find? isDenied, firstAsk os with
  | some o, _ => ⟨.deny, o.reason, none⟩
  | none, some reason => ⟨.ask, reason, lastArgs os⟩
  | none, none => ⟨.allow, none, lastArgs os⟩

/-- Nobody denies the call. -/
def NoneDenies (os : List PreOutcome) : Prop :=
  ∀ o ∈ os, o.decision ≠ .deny

theorem lastArgs_append (os os' : List PreOutcome) :
    lastArgs (os ++ os') = (lastArgs os').or (lastArgs os) := by
  rw [lastArgs, List.filterMap_append, List.getLast?_append]
  rfl

theorem lastArgs_singleton (o : PreOutcome) : lastArgs [o] = o.updatedArgs := by
  rw [lastArgs]
  cases h : o.updatedArgs with
  | none => rw [List.filterMap_cons_none h]; rfl
  | some arguments => rw [List.filterMap_cons_some h]; rfl

theorem firstAsk_append (os os' : List PreOutcome) :
    firstAsk (os ++ os') = (firstAsk os).or (firstAsk os') := by
  rw [firstAsk, List.find?_append, Option.map_or]
  rfl

theorem firstAsk_singleton_of_ask {o : PreOutcome} (h : o.decision = .ask) :
    firstAsk [o] = some o.reason := by
  simp [firstAsk, h]

theorem firstAsk_singleton_of_allow {o : PreOutcome} (h : o.decision = .allow) :
    firstAsk [o] = none := by
  simp [firstAsk, h]

theorem noneDenies_nil : NoneDenies [] :=
  fun _ ho => absurd ho List.not_mem_nil

theorem NoneDenies.snoc {os : List PreOutcome} {o : PreOutcome} (h : NoneDenies os)
    (ho : o.decision ≠ .deny) : NoneDenies (os ++ [o]) := by
  intro o' ho'
  obtain hmem | hlast := List.mem_append.mp ho'
  · exact h o' hmem
  · rwa [List.mem_singleton.mp hlast]

theorem isDenied_iff {o : PreOutcome} : o.isDenied = true ↔ o.decision = .deny :=
  beq_iff_eq

theorem noneDenies_iff {os : List PreOutcome} :
    NoneDenies os ↔ os.find? isDenied = none := by
  rw [List.find?_eq_none]
  constructor
  · intro h o ho hdenied
    exact h o ho (isDenied_iff.mp hdenied)
  · intro h o ho hdeny
    exact h o ho (isDenied_iff.mpr hdeny)

/-- Without a denial a chain comes to what its last state says. -/
theorem ofAll_of_noneDenies {os : List PreOutcome} (h : NoneDenies os) :
    ofAll os =
      ⟨if (firstAsk os).isSome then .ask else .allow, (firstAsk os).join, lastArgs os⟩ := by
  rw [ofAll, noneDenies_iff.mp h]
  cases firstAsk os <;> rfl

/-- The first denial settles it, whatever else is said after it. -/
theorem ofAll_of_deny {os rest : List PreOutcome} {o : PreOutcome} (h : NoneDenies os)
    (ho : o.decision = .deny) : ofAll (os ++ o :: rest) = ⟨.deny, o.reason, none⟩ := by
  rw [ofAll, List.find?_append, noneDenies_iff.mp h, List.find?_cons_of_pos (isDenied_iff.mpr ho)]
  rfl

end PreOutcome

/-- The request with the arguments that the answers leave. -/
def PreRequest.after (q : PreRequest) (os : List PreOutcome) : PreRequest :=
  { q with arguments := (PreOutcome.lastArgs os).getD q.arguments }

theorem PreRequest.after_append (q : PreRequest) (os os' : List PreOutcome) :
    q.after (os ++ os') = (q.after os).after os' := by
  simp only [after, PreOutcome.lastArgs_append]
  cases PreOutcome.lastArgs os' <;> rfl

theorem PreRequest.after_singleton (q : PreRequest) (o : PreOutcome) :
    q.after [o] = { q with arguments := o.updatedArgs.getD q.arguments } := by
  rw [after, PreOutcome.lastArgs_singleton]

/-! ## Hearings -/

/-- Somebody was shown a request and replied to it. -/
structure Hearing (ω ρ α : Type) where
  who : ω
  request : ρ
  reply : Reply α

variable {ω ρ α : Type}

/-- The answers among the replies. -/
def answers (log : List (Hearing ω ρ α)) : List α :=
  log.filterMap fun h => h.reply.answer?

theorem answers_append (log log' : List (Hearing ω ρ α)) :
    answers (log ++ log') = answers log ++ answers log' :=
  List.filterMap_append

theorem answers_cons (h : Hearing ω ρ α) (log : List (Hearing ω ρ α)) :
    answers (h :: log) = answers [h] ++ answers log :=
  answers_append [h] log

theorem answers_singleton_of_answer {h : Hearing ω ρ α} {o : α} (ho : h.reply.answer? = some o) :
    answers [h] = [o] :=
  List.filterMap_cons_some ho

theorem answers_singleton_of_failure {h : Hearing ω ρ α} (ho : h.reply.answer? = none) :
    answers [h] = [] :=
  List.filterMap_cons_none ho

/-- Those that gave no answer can be left out. -/
theorem answers_filter {log : List (Hearing ω ρ α)} {keep : Hearing ω ρ α → Bool}
    (hkeep : ∀ h ∈ log, keep h = false → h.reply.answer? = none) :
    answers (log.filter keep) = answers log := by
  induction log with
  | nil => rfl
  | cons h log ih =>
      have hlog := ih fun k hk => hkeep k (List.mem_cons_of_mem _ hk)
      cases hh : keep h with
      | true => rw [List.filter_cons_of_pos hh, answers_cons, hlog, ← answers_cons]
      | false =>
          have hnone := hkeep h List.mem_cons_self hh
          rw [List.filter_cons_of_neg (by simp [hh]), hlog, answers_cons h,
            answers_singleton_of_failure hnone, List.nil_append]

/-! ## How they go -/

/-- Somebody was heard and denied the call. -/
def Hearing.Denies (h : Hearing ω ρ PreOutcome) : Prop :=
  ∃ o, h.reply.answer? = some o ∧ o.decision = .deny

/-- Of all who have a say in the call of `request`, these are heard. -/
structure HeardInTurn (all : List ω) (request : PreRequest)
    (log : List (Hearing ω PreRequest PreOutcome)) : Prop where
  /-- They are heard in turn. -/
  inTurn : log.map Hearing.who <+: all
  /-- Each is shown the arguments as the answers before it left them. -/
  shown : ∀ before h rest, log = before ++ h :: rest → h.request = request.after (answers before)
  /-- Nobody is heard after a denial. -/
  untilDenied : ∀ before h rest, log = before ++ h :: rest → h.Denies → rest = []
  /-- Without a denial all are heard. -/
  whole : (∀ h ∈ log, ¬ h.Denies) → log.map Hearing.who = all

namespace HeardInTurn

variable {all : List ω} {log : List (Hearing ω PreRequest PreOutcome)}

theorem nil (request : PreRequest) : HeardInTurn ([] : List ω) request [] where
  inTurn := List.nil_prefix
  shown _ _ _ h := absurd h.symm (by simp)
  untilDenied _ _ _ h := absurd h.symm (by simp)
  whole _ := rfl

/-- A denial is the end. -/
theorem denied {h : Hearing ω PreRequest PreOutcome} (hdenies : h.Denies) :
    HeardInTurn (h.who :: all) h.request [h] where
  inTurn := List.prefix_append [h.who] all
  shown before k rest heq := by
    obtain ⟨rfl, hk⟩ | ⟨before, rfl, hbefore⟩ := List.cons_eq_append_iff.mp heq
    · rw [(List.cons.inj hk).1]
      rfl
    · exact absurd hbefore.symm (by simp)
  untilDenied before k rest heq _ := by
    obtain ⟨-, hk⟩ | ⟨before, -, hbefore⟩ := List.cons_eq_append_iff.mp heq
    · exact (List.cons.inj hk).2
    · exact absurd hbefore.symm (by simp)
  whole hnone := absurd hdenies (hnone h List.mem_cons_self)

/-- After anything else the others are heard, with what the answer left. -/
theorem cons {h : Hearing ω PreRequest PreOutcome} (hnot : ¬ h.Denies)
    (hlog : HeardInTurn all (h.request.after (answers [h])) log) :
    HeardInTurn (h.who :: all) h.request (h :: log) where
  inTurn := List.cons_prefix_cons.mpr ⟨rfl, hlog.inTurn⟩
  shown before k rest heq := by
    obtain ⟨rfl, hk⟩ | ⟨before, rfl, hbefore⟩ := List.cons_eq_append_iff.mp heq
    · rw [(List.cons.inj hk).1]
      rfl
    · rw [answers_cons, PreRequest.after_append]
      exact hlog.shown before k rest hbefore
  untilDenied before k rest heq hdenies := by
    obtain ⟨-, hk⟩ | ⟨before, -, hbefore⟩ := List.cons_eq_append_iff.mp heq
    · rw [(List.cons.inj hk).1] at hdenies
      exact absurd hdenies hnot
    · exact hlog.untilDenied before k rest hbefore hdenies
  whole hnone :=
    congrArg (h.who :: ·) (hlog.whole fun k hk => hnone k (List.mem_cons_of_mem _ hk))

end HeardInTurn

/-! ## Keeping the minutes -/

/-- Who was heard, and what was warned of. -/
structure Minutes (ω ρ α : Type) where
  hearings : List (Hearing ω ρ α)
  warnings : List Warning

/-- Computations in which minutes are kept. -/
abbrev Minuted (ω ρ α : Type) : Type → Type := StateM (Minutes ω ρ α)

instance : MonadWarn (Minuted ω ρ α) :=
  ⟨fun w => modify fun m => { m with warnings := m.warnings ++ [w] }⟩

/-- Hears somebody, and takes it down. -/
def minuting (reply : ω → ρ → Reply α) (who : ω) (request : ρ) : Minuted ω ρ α (Reply α) := do
  modify fun m => { m with hearings := m.hearings ++ [⟨who, request, reply who request⟩] }
  pure (reply who request)

end AgentSessions
