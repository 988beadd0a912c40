import AgentSessions.Proofs.Dialogue.Marks

/-!
# Dialogues with a token

A path says what was asked and answered, but not when the token of the engine was tripped. A
`Moment` is an exchange with the state of the token before and after it. The token is tripped at
most once and stays so, and only while somebody is waited for: by the one who is asked, or by
anybody else in the meantime. Those who are raced against the token give no answer if they are asked
too late, and fail to give one only if the token is tripped.

`d.Under t P` says that `P` holds of the moments, the token at the end and the result of every path
through `d` that begins with the token as `t` says. As with `Keeps`, it is taken apart along a
dialogue (`under_bind`) and read as a statement on paths (`under_iff`); what holds on all paths
holds on these (`Keeps.under`). That it speaks of some path is `exists_unbroken`.
-/

set_option autoImplicit false

namespace AgentSessions

open Engine (Ask)

/-! ## Moments -/

/-- Somebody has to be waited for before the question is answered. -/
def Engine.Ask.waits : Ask → Bool
  | .chat _ | .consult _ | .summarize _ | .check _ _ | .confirm _ | .execute _ _ _ | .review _ _
  | .save _ => true
  | .now | .isCancelled | .report _ | .warn _ => false

/-- The question is raced against the token. -/
def Engine.Ask.isRaced : Ask → Bool
  | .chat _ | .execute _ _ _ => true
  | _ => false

/-- The answer agrees with the token: a look at the token finds it as it is, and one who is raced
against it fails to answer when it is tripped before, and not unless it is tripped in the end. -/
def Exchange.agrees (before after : Bool) : Exchange → Bool
  | ⟨.isCancelled, tripped⟩ => tripped == before
  | ⟨.chat _, answer⟩ => (!before || answer.isNone) && (answer.isSome || after)
  | ⟨.execute _ _ _, answer⟩ => (!before || answer.isNone) && (answer.isSome || after)
  | _ => true

/-- An exchange, and whether the token was tripped before it and after it. -/
structure Moment where
  exchange : Exchange
  before : Bool
  after : Bool

namespace Moment

/-- The token is tripped while the question is answered. -/
def trips (m : Moment) : Bool :=
  !m.before && m.after

/-- The token stays tripped, is tripped only while somebody is waited for, and shows in the
answer. -/
structure Heeds (m : Moment) : Prop where
  stays : m.before = true → m.after = true
  waits : m.trips = true → m.exchange.question.waits = true
  agrees : m.exchange.agrees m.before m.after = true

instance (m : Moment) : Decidable m.Heeds :=
  decidable_of_iff ((m.before = true → m.after = true) ∧
      (m.trips = true → m.exchange.question.waits = true) ∧
      m.exchange.agrees m.before m.after = true)
    ⟨fun h => ⟨h.1, h.2.1, h.2.2⟩, fun h => ⟨h.stays, h.waits, h.agrees⟩⟩

end Moment

/-- The token goes through these moments, from one state to another. -/
def Unbroken : Bool → List Moment → Bool → Prop
  | t, [], t' => t = t'
  | t, m :: ms, t' => m.before = t ∧ m.Heeds ∧ Unbroken m.after ms t'

instance decidableUnbroken : (t : Bool) → (ms : List Moment) → (t' : Bool) →
    Decidable (Unbroken t ms t')
  | t, [], t' => inferInstanceAs (Decidable (t = t'))
  | t, m :: ms, t' =>
      have := decidableUnbroken m.after ms t'
      inferInstanceAs (Decidable (m.before = t ∧ m.Heeds ∧ Unbroken m.after ms t'))

/-- The exchanges of moments. -/
def exchanges (ms : List Moment) : List Exchange :=
  ms.map Moment.exchange

theorem exchanges_append (ms ms' : List Moment) :
    exchanges (ms ++ ms') = exchanges ms ++ exchanges ms' :=
  List.map_append

/-! ## What a moment tells of the token -/

namespace Moment.Heeds

variable {t t' : Bool}

/-- Nothing happens to the token while nobody is waited for. -/
theorem same {question : Ask} {answer : question.Answer}
    (h : Heeds ⟨⟨question, answer⟩, t, t'⟩) (hbrisk : question.waits = false) : t' = t := by
  have hstays := h.stays
  have hwaits := h.waits
  rw [hbrisk] at hwaits
  cases t <;> cases t' <;> simp_all [trips]

theorem tripped {answer : Bool} (h : Heeds ⟨⟨.isCancelled, answer⟩, t, t'⟩) : answer = t :=
  eq_of_beq h.agrees

theorem chat {request : ModelRequest} {answer : Option (Except ModelError ModelResponse)}
    (h : Heeds ⟨⟨.chat request, answer⟩, t, t'⟩) :
    (t = true → answer = none) ∧ (answer = none → t' = true) := by
  have hagrees := h.agrees
  simp only [Exchange.agrees] at hagrees
  cases answer <;> cases t <;> simp_all

theorem execute {tool : String} {arguments : Json.Object} {call : CallId}
    {answer : Option ToolOutcome} (h : Heeds ⟨⟨.execute tool arguments call, answer⟩, t, t'⟩) :
    (t = true → answer = none) ∧ (answer = none → t' = true) := by
  have hagrees := h.agrees
  simp only [Exchange.agrees] at hagrees
  cases answer <;> cases t <;> simp_all

end Moment.Heeds

/-- An exchange during which nothing happens to the token. -/
theorem unbroken_same {e : Exchange} {t : Bool} (h : e.agrees t t = true) :
    Unbroken t [⟨e, t, t⟩] t :=
  ⟨rfl, ⟨id, fun htrips => (by cases t <;> cases htrips), h⟩, rfl⟩

theorem Unbroken.stays {t t' : Bool} {ms : List Moment} (h : Unbroken t ms t') :
    t = true → t' = true := by
  induction ms generalizing t with
  | nil => exact fun ht => h ▸ ht
  | cons m ms ih =>
      obtain ⟨rfl, hheeds, hrest⟩ := h
      exact fun ht => ih hrest (hheeds.stays ht)

theorem Unbroken.before_eq_false {t : Bool} {ms : List Moment} (h : Unbroken t ms false) :
    ∀ m ∈ ms, m.before = false := by
  induction ms generalizing t with
  | nil => exact fun m hm => absurd hm List.not_mem_nil
  | cons m ms ih =>
      obtain ⟨-, hheeds, hrest⟩ := h
      refine List.forall_mem_cons.mpr ⟨?_, ih hrest⟩
      cases hbefore : m.before with
      | false => rfl
      | true => exact absurd (hrest.stays (hheeds.stays hbefore)) Bool.false_ne_true

theorem Unbroken.append {t t' t'' : Bool} {ms ms' : List Moment} (h : Unbroken t ms t')
    (h' : Unbroken t' ms' t'') : Unbroken t (ms ++ ms') t'' := by
  induction ms generalizing t with
  | nil => exact h ▸ h'
  | cons m ms ih => exact ⟨h.1, h.2.1, ih h.2.2⟩

/-- A token that is tripped in the end and was not in the beginning was tripped in between. -/
theorem Unbroken.exists_trips {ms : List Moment} (h : Unbroken false ms true) :
    ∃ m ∈ ms, m.trips = true := by
  induction ms with
  | nil => cases h
  | cons m ms ih =>
      obtain ⟨hbefore, -, hrest⟩ := h
      cases hafter : m.after with
      | true => exact ⟨m, List.mem_cons_self, by simp [Moment.trips, hbefore, hafter]⟩
      | false =>
          rw [hafter] at hrest
          obtain ⟨m', hm', htrips⟩ := ih hrest
          exact ⟨m', List.mem_cons_of_mem _ hm', htrips⟩

namespace Dialogue

variable {α β : Type}

/-! ## Paths that heed the token -/

/-- All that results, on every path that heeds the token, with the moments before it. -/
def Under : (t : Bool) → (List Moment → Bool → α → Prop) → Dialogue α → Prop
  | t, P, .done a => P [] t a
  | t, P, .ask question next => ∀ answer t', Moment.Heeds ⟨⟨question, answer⟩, t, t'⟩ →
      Under t' (fun ms => P (⟨⟨question, answer⟩, t, t'⟩ :: ms)) (next answer)

theorem under_iff {t : Bool} {P : List Moment → Bool → α → Prop} {d : Dialogue α} :
    d.Under t P ↔
      ∀ ms t' a, Unbroken t ms t' → d.Leads (exchanges ms) (.done a) → P ms t' a := by
  induction d generalizing t P with
  | done b =>
      constructor
      · intro h ms t' a hunbroken hpath
        obtain rfl : ms = [] := by
          cases ms with
          | nil => rfl
          | cons m ms => cases hpath
        cases hpath
        exact hunbroken ▸ h
      · exact fun h => h [] t b rfl (.here _)
  | ask question next ih =>
      constructor
      · intro h ms t' a hunbroken hpath
        cases ms with
        | nil => cases hpath
        | cons m ms =>
            obtain ⟨⟨q, answer⟩, before, after⟩ := m
            cases hpath with
            | on answer hpath =>
                obtain ⟨rfl, hheeds, hrest⟩ := hunbroken
                exact (ih answer).mp (h answer after hheeds) ms t' a hrest hpath
      · intro h answer t' hheeds
        refine (ih answer).mpr fun ms t'' a hunbroken hpath => ?_
        exact h (⟨⟨question, answer⟩, t, t'⟩ :: ms) t'' a ⟨rfl, hheeds, hunbroken⟩
          (.on answer hpath)

/-! ## Taking `Under` apart -/

section

variable {t : Bool} {P : List Moment → Bool → α → Prop} {Q : List Moment → Bool → β → Prop}
  {d : Dialogue α}

theorem Under.mono {P' : List Moment → Bool → α → Prop} (h : d.Under t P)
    (himp : ∀ ms t' a, P ms t' a → P' ms t' a) : d.Under t P' := by
  rw [under_iff] at h ⊢
  exact fun ms t' a hunbroken hpath => himp ms t' a (h ms t' a hunbroken hpath)

theorem under_pure {a : α} (h : P [] t a) : (pure a : Dialogue α).Under t P :=
  h

theorem under_bind {f : α → Dialogue β} :
    (d >>= f).Under t Q ↔
      d.Under t fun ms t' a => (f a).Under t' fun ms' => Q (ms ++ ms') := by
  show (d.bind f).Under t Q ↔ _
  induction d generalizing t Q with
  | done a => exact Iff.rfl
  | ask question next ih =>
      constructor
      · intro h answer t' hheeds
        exact (ih answer).mp (h answer t' hheeds)
      · intro h answer t' hheeds
        exact (ih answer).mpr (h answer t' hheeds)

theorem Under.bind {f : α → Dialogue β} (h : d.Under t P)
    (hf : ∀ ms t' a, P ms t' a → (f a).Under t' fun ms' => Q (ms ++ ms')) :
    (d >>= f).Under t Q :=
  under_bind.mpr (h.mono hf)

theorem Under.map {f : α → β} (h : d.Under t P) (hf : ∀ ms t' a, P ms t' a → Q ms t' (f a)) :
    (f <$> d).Under t Q := by
  refine h.bind (f := fun a => pure (f a)) fun ms t' a ha => under_pure ?_
  rw [List.append_nil]
  exact hf ms t' a ha

/-- A question that is answered at once leaves the token as it is. -/
theorem under_brisk (question : Ask) (hbrisk : question.waits = false)
    {P : List Moment → Bool → question.Answer → Prop}
    (h : ∀ answer, P [⟨⟨question, answer⟩, t, t⟩] t answer) : (put question).Under t P := by
  intro answer t' hheeds
  rw [hheeds.same hbrisk]
  exact h answer

theorem under_now {P : List Moment → Bool → Instant → Prop}
    (h : ∀ time, P [⟨⟨.now, time⟩, t, t⟩] t time) : now.Under t P :=
  under_brisk .now rfl h

theorem under_report {body : EventBody} {P : List Moment → Bool → Unit → Prop}
    (h : P [⟨⟨.report body, ()⟩, t, t⟩] t ()) : (report body).Under t P :=
  under_brisk (.report body) rfl fun _ => h

/-- A look at the token shows it as it is. -/
theorem under_isCancelled {P : List Moment → Bool → Bool → Prop}
    (h : P [⟨⟨.isCancelled, t⟩, t, t⟩] t t) : isCancelled.Under t P := by
  intro answer t' hheeds
  obtain rfl := hheeds.same rfl
  obtain rfl := hheeds.tripped
  exact h

/-- What holds on all paths holds on those that heed the token. -/
theorem Keeps.under {R : List Exchange → α → Prop} (h : d.Keeps R) (t : Bool) :
    d.Under t fun ms t' a => R (exchanges ms) a ∧ Unbroken t ms t' :=
  under_iff.mpr fun ms _ a hunbroken hpath => ⟨keeps_iff.mp h (exchanges ms) a hpath, hunbroken⟩

theorem Calm.under {μ : Type} {mark? : Exchange → Option μ} {Q : α → Prop} (h : d.Calm mark? Q)
    (t : Bool) : d.Under t fun ms t' a =>
      (exchanges ms).filterMap mark? = [] ∧ Q a ∧ Unbroken t ms t' :=
  (Keeps.under h t).mono fun _ _ _ ha => ⟨ha.1.1, ha.1.2, ha.2⟩

theorem Under.and_keeps {R : List Exchange → α → Prop} (h : d.Under t P) (hkeeps : d.Keeps R) :
    d.Under t fun ms t' a => P ms t' a ∧ R (exchanges ms) a ∧ Unbroken t ms t' :=
  under_iff.mpr fun ms t' a hunbroken hpath =>
    ⟨under_iff.mp h ms t' a hunbroken hpath, keeps_iff.mp hkeeps (exchanges ms) a hpath, hunbroken⟩

end

/-! ## There are such paths -/

/-- Some answer to the question that agrees with the token. -/
theorem exists_heeds (question : Ask) (t : Bool) :
    ∃ (answer : question.Answer) (t' : Bool),
      Moment.Heeds ⟨⟨question, answer⟩, t, t'⟩ := by
  cases question with
  | isCancelled => exact ⟨t, t, by cases t <;> decide⟩
  | chat request => exact ⟨none, true, by cases t <;> exact ⟨fun _ => rfl, fun _ => rfl, rfl⟩⟩
  | execute tool arguments call =>
      exact ⟨none, true, by cases t <;> exact ⟨fun _ => rfl, fun _ => rfl, rfl⟩⟩
  | _ => exact ⟨idleAnswer _, t, id, fun h => (by cases t <;> cases h), rfl⟩

/-- Whatever has happened, the dialogue can go on with the token as it is, and comes to an end. -/
theorem exists_unbroken (d : Dialogue α) (t : Bool) :
    ∃ ms t' a, Unbroken t ms t' ∧ d.Leads (exchanges ms) (.done a) := by
  induction d generalizing t with
  | done a => exact ⟨[], t, a, rfl, .here _⟩
  | ask question next ih =>
      obtain ⟨answer, t', hheeds⟩ := exists_heeds question t
      obtain ⟨ms, t'', a, hunbroken, hpath⟩ := ih answer t'
      exact ⟨⟨⟨question, answer⟩, t, t'⟩ :: ms, t'', a, ⟨rfl, hheeds, hunbroken⟩, .on answer hpath⟩

end Dialogue

end AgentSessions
