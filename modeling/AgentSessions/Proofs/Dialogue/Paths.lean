import AgentSessions.Engine.Setup

/-!
# Paths through dialogues

What an engine can do is the set of paths through its dialogue. A path is the list of the questions
put so far with the answers they got; `d.Leads trace e` says that after these exchanges the dialogue
`d` goes on as `e`. So a question that is put after `trace` is an `e` that asks it, and a result is
an `e` that is done. Every path can be followed to a result (`leads_done`), so what holds of all
exchanges on the way to a result holds of those that are cut short as well.

`d.Keeps P` says of all paths at once that every result comes after exchanges that bear it out. It
is taken apart along a dialogue by `keeps_bind` and its companions, and read as a statement on paths
by `keeps_iff`.
-/

set_option autoImplicit false

namespace AgentSessions

open Engine (Ask)

/-- A question and the answer it got. -/
structure Exchange where
  question : Ask
  answer : question.Answer

/-- An engine that has no tools and no checks and does not compact. -/
def Engine.Setup.plain : Engine.Setup := ⟨default, none, 0, [], 0, 0, false, none⟩

/-- A call of the tool `look`. -/
def Engine.look (id : String) : ToolCall := ⟨⟨id⟩, "look", .empty⟩

namespace Dialogue

variable {α β : Type}

/-- After these exchanges the dialogue goes on as another one. -/
inductive Leads : Dialogue α → List Exchange → Dialogue α → Prop where
  | here (d : Dialogue α) : Leads d [] d
  | on {question : Ask} {next : question.Answer → Dialogue α} (answer : question.Answer)
      {trace : List Exchange} {d : Dialogue α} :
      Leads (next answer) trace d → Leads (.ask question next) (⟨question, answer⟩ :: trace) d

/-- All that results, on every path, with the exchanges before it. -/
def Keeps : (List Exchange → α → Prop) → Dialogue α → Prop
  | P, .done a => P [] a
  | P, .ask question next =>
      ∀ answer, Keeps (fun trace => P (⟨question, answer⟩ :: trace)) (next answer)

/-- All that results, on every path. -/
def Yields (P : α → Prop) : Dialogue α → Prop :=
  Keeps fun _ a => P a

/-! ## Paths -/

theorem Leads.trans {d e g : Dialogue α} {trace rest : List Exchange} (h : d.Leads trace e)
    (h' : e.Leads rest g) : d.Leads (trace ++ rest) g := by
  induction h with
  | here d => exact h'
  | on answer _ ih => exact .on answer (ih h')

/-- What follows on the first of two dialogues, once it is done, is the second one. -/
theorem Leads.of_bind {d : Dialogue α} {f : α → Dialogue β} {a : α} {e : Dialogue β}
    {trace rest : List Exchange} (h : d.Leads trace (.done a))
    (hbind : (d >>= f).Leads (trace ++ rest) e) : (f a).Leads rest e := by
  induction d generalizing trace with
  | done b =>
      cases h with
      | here => exact hbind
  | ask question next ih =>
      cases h with
      | on answer h =>
          cases hbind with
          | on _ hbind => exact ih answer h hbind

/-- A dialogue that is done asks nothing more. -/
theorem leads_done_iff {b a : α} {trace : List Exchange} :
    (Dialogue.done b).Leads trace (.done a) ↔ trace = [] ∧ a = b := by
  constructor
  · intro h
    cases h with
    | here => exact ⟨rfl, rfl⟩
  · rintro ⟨rfl, rfl⟩
    exact .here _

theorem leads_ask_iff {question : Ask} {next : question.Answer → Dialogue α}
    {trace : List Exchange} {a : α} :
    (Dialogue.ask question next).Leads trace (.done a) ↔
      ∃ answer rest, trace = ⟨question, answer⟩ :: rest ∧ (next answer).Leads rest (.done a) := by
  constructor
  · intro h
    cases h with
    | on answer hrest => exact ⟨answer, _, rfl, hrest⟩
  · rintro ⟨answer, rest, rfl, hrest⟩
    exact .on answer hrest

theorem leads_bind_iff {d : Dialogue α} {f : α → Dialogue β} {trace : List Exchange} {b : β} :
    (d >>= f).Leads trace (.done b) ↔
      ∃ first a rest, trace = first ++ rest ∧ d.Leads first (.done a) ∧
        (f a).Leads rest (.done b) := by
  show (d.bind f).Leads trace (.done b) ↔ _
  induction d generalizing trace with
  | done a =>
      constructor
      · intro h
        exact ⟨[], a, trace, rfl, .here _, h⟩
      · rintro ⟨first, a', rest, rfl, hfirst, hrest⟩
        obtain ⟨rfl, rfl⟩ := leads_done_iff.mp hfirst
        exact hrest
  | ask question next ih =>
      refine leads_ask_iff.trans ⟨?_, ?_⟩
      · rintro ⟨answer, later, rfl, hlater⟩
        obtain ⟨first, a, rest, rfl, hfirst, hrest⟩ := (ih answer).mp hlater
        exact ⟨_, a, rest, (List.cons_append).symm, .on answer hfirst, hrest⟩
      · rintro ⟨first, a, rest, rfl, hfirst, hrest⟩
        obtain ⟨answer, later, rfl, hlater⟩ := leads_ask_iff.mp hfirst
        exact ⟨answer, later ++ rest, List.cons_append,
          (ih answer).mpr ⟨later, a, rest, rfl, hlater, hrest⟩⟩

/-- On every path only questions of the kind are put. -/
theorem Only.of_leads {kind : Ask → Bool} {d e : Dialogue α} {trace : List Exchange}
    (h : d.Only kind) (hpath : d.Leads trace e) : ∀ x ∈ trace, kind x.question = true := by
  induction hpath with
  | here d =>
      intro x hx
      cases hx
  | on answer _ ih =>
      intro x hx
      rcases List.mem_cons.mp hx with rfl | hx
      · exact h.1
      · exact ih (h.2 answer) x hx

/-- The answer of surroundings in which nothing happens: the model is not heard of, no tool comes to
its end, and nobody stands in the way. -/
def idleAnswer : (question : Ask) → question.Answer
  | .now => (default : Instant)
  | .isCancelled => false
  | .chat _ => none
  | .consult _ => .ok default
  | .summarize _ => .ok ""
  | .check _ _ => PreOutcome.allow
  | .confirm _ => .ok true
  | .execute _ _ _ => none
  | .review _ _ => PostOutcome.unchanged
  | .save _ => .ok ()
  | .report _ => ()
  | .warn _ => ()

/-- The path on which the questions, numbered from `n` on, are answered by `reply`, and its result.
-/
def play (reply : Nat → (question : Ask) → question.Answer) :
    (n : Nat) → Dialogue α → List Exchange × α
  | _, .done a => ([], a)
  | n, .ask question next =>
      let rest := play reply (n + 1) (next (reply n question))
      (⟨question, reply n question⟩ :: rest.1, rest.2)

theorem leads_play (reply : Nat → (question : Ask) → question.Answer) (n : Nat)
    (d : Dialogue α) : d.Leads (d.play reply n).1 (.done (d.play reply n).2) := by
  induction d generalizing n with
  | done a => exact .here _
  | ask question next ih => exact .on (reply n question) (ih (reply n question) (n + 1))

/-- Every dialogue can come to an end. -/
theorem leads_done (d : Dialogue α) : ∃ trace a, d.Leads trace (.done a) :=
  ⟨_, _, d.leads_play (fun _ => idleAnswer) 0⟩

/-! ## Reading `Keeps` on paths -/

theorem Keeps.of_leads {P : List Exchange → α → Prop} {d e : Dialogue α} {trace : List Exchange}
    (h : d.Keeps P) (hpath : d.Leads trace e) : e.Keeps fun rest => P (trace ++ rest) := by
  induction hpath generalizing P with
  | here d => exact h
  | on answer _ ih => exact ih (h answer)

theorem keeps_iff {P : List Exchange → α → Prop} {d : Dialogue α} :
    d.Keeps P ↔ ∀ trace a, d.Leads trace (.done a) → P trace a := by
  constructor
  · intro h trace a hpath
    have hdone : P (trace ++ []) a := h.of_leads hpath
    rwa [List.append_nil] at hdone
  · intro h
    induction d generalizing P with
    | done a => exact h [] a (.here _)
    | ask question next ih =>
        intro answer
        refine ih answer fun trace a hpath => ?_
        exact h _ a (.on answer hpath)

/-! ## Taking `Keeps` apart -/

theorem Keeps.mono {P Q : List Exchange → α → Prop} {d : Dialogue α} (h : d.Keeps P)
    (himp : ∀ trace a, P trace a → Q trace a) : d.Keeps Q := by
  rw [keeps_iff] at h ⊢
  exact fun trace a hpath => himp trace a (h trace a hpath)

theorem Keeps.and {P Q : List Exchange → α → Prop} {d : Dialogue α} (h : d.Keeps P)
    (h' : d.Keeps Q) : d.Keeps fun trace a => P trace a ∧ Q trace a := by
  rw [keeps_iff] at h h' ⊢
  exact fun trace a hpath => ⟨h trace a hpath, h' trace a hpath⟩

variable {P : List Exchange → β → Prop}

/-- One dialogue after another keeps what both keep, the second with the exchanges of the first
before its own. -/
theorem keeps_bind {d : Dialogue α} {f : α → Dialogue β} :
    (d >>= f).Keeps P ↔ d.Keeps fun trace a => (f a).Keeps fun rest => P (trace ++ rest) := by
  show (d.bind f).Keeps P ↔ _
  induction d generalizing P with
  | done a => exact Iff.rfl
  | ask question next ih =>
      constructor
      · intro h answer
        exact (ih answer).mp (h answer)
      · intro h answer
        exact (ih answer).mpr (h answer)

/-- What is asked first is answered in any way. -/
theorem keeps_put_bind {question : Ask} {f : question.Answer → Dialogue β} :
    (put question >>= f).Keeps P ↔
      ∀ answer, (f answer).Keeps fun rest => P (⟨question, answer⟩ :: rest) :=
  Iff.rfl

theorem keeps_true (d : Dialogue β) : d.Keeps fun _ _ => True :=
  keeps_iff.mpr fun _ _ _ => trivial

/-! ## Results alone -/

variable {Q : β → Prop}

theorem Yields.next {question : Ask} {next : question.Answer → Dialogue β}
    (h : Yields Q (.ask question next)) (answer : question.Answer) : Yields Q (next answer) :=
  h answer

theorem yields_bind {d : Dialogue α} {f : α → Dialogue β} (h : ∀ a, Yields Q (f a)) :
    Yields Q (d >>= f) := by
  refine keeps_bind.mpr ((keeps_true d).mono fun _ a _ => ?_)
  exact h a

end Dialogue

end AgentSessions
