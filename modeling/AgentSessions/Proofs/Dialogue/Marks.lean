import AgentSessions.Proofs.Dialogue.Paths

/-!
# Marks of exchanges

Of all that an engine asks and hears, a statement mostly concerns a few exchanges only. A function
`mark?` picks them out and says what is noted of them; `d.Does mark? P` says that `P` holds of the
marks and the result on every path through `d`, and `d.Calm mark? P` that in addition there are no
marks. Both are proved along a dialogue: what follows on a calm dialogue leaves the marks of the
whole.
-/

set_option autoImplicit false

namespace AgentSessions.Dialogue

variable {α β μ : Type} {mark? : Exchange → Option μ}

/-- The marks and the result on every path. -/
def Does (mark? : Exchange → Option μ) (P : List μ → α → Prop) (d : Dialogue α) : Prop :=
  d.Keeps fun trace a => P (trace.filterMap mark?) a

/-- No marks on any path, and the result. -/
def Calm (mark? : Exchange → Option μ) (P : α → Prop) (d : Dialogue α) : Prop :=
  d.Does mark? fun ms a => ms = [] ∧ P a

section

variable {P : List μ → α → Prop} {Q : List μ → β → Prop} {d : Dialogue α}

theorem Does.of_leads (h : d.Does mark? P) {trace : List Exchange} {a : α}
    (hpath : d.Leads trace (.done a)) : P (trace.filterMap mark?) a :=
  keeps_iff.mp h trace a hpath

theorem Does.mono {P' : List μ → α → Prop} (h : d.Does mark? P) (himp : ∀ ms a, P ms a → P' ms a) :
    d.Does mark? P' :=
  Keeps.mono h fun trace a => himp (trace.filterMap mark?) a

theorem does_pure {a : α} (h : P [] a) : (pure a : Dialogue α).Does mark? P :=
  h

/-- A result that came with marks before. -/
theorem does_pure_after {ms : List μ} {a : α} (h : P ms a) :
    (pure a : Dialogue α).Does mark? fun ms' => P (ms ++ ms') := by
  refine does_pure ?_
  rw [List.append_nil]
  exact h

theorem Does.bind {f : α → Dialogue β} (h : d.Does mark? P)
    (hf : ∀ ms a, P ms a → (f a).Does mark? fun ms' => Q (ms ++ ms')) : (d >>= f).Does mark? Q := by
  refine keeps_bind.mpr (Keeps.mono h fun trace a ha => ?_)
  refine Keeps.mono (hf _ a ha) fun rest b hb => ?_
  rw [List.filterMap_append]
  exact hb

theorem Does.map {f : α → β} (h : d.Does mark? P) (hf : ∀ ms a, P ms a → Q ms (f a)) :
    (f <$> d).Does mark? Q := by
  exact h.bind (f := fun a => pure (f a)) fun ms a ha => does_pure_after (hf ms a ha)

end

/-! ## Dialogues that leave no marks -/

section

variable {P : α → Prop} {Q : β → Prop} {d : Dialogue α}

theorem calm_pure {a : α} (h : P a) : (pure a : Dialogue α).Calm mark? P :=
  ⟨rfl, h⟩

theorem Calm.mono {P' : α → Prop} (h : d.Calm mark? P) (himp : ∀ a, P a → P' a) :
    d.Calm mark? P' :=
  Does.mono h fun _ a ha => ⟨ha.1, himp a ha.2⟩

theorem Calm.does {R : List μ → α → Prop} (h : d.Calm mark? P) (hR : ∀ a, P a → R [] a) :
    d.Does mark? R := by
  refine Does.mono h fun ms a ha => ?_
  rw [ha.1]
  exact hR a ha.2

theorem Calm.then {f : α → Dialogue β} {R : List μ → β → Prop} (h : d.Calm mark? P)
    (hf : ∀ a, P a → (f a).Does mark? R) : (d >>= f).Does mark? R := by
  refine Does.bind h fun ms a ha => ?_
  rw [ha.1]
  exact hf a ha.2

theorem Calm.bind {f : α → Dialogue β} (h : d.Calm mark? P)
    (hf : ∀ a, P a → (f a).Calm mark? Q) : (d >>= f).Calm mark? Q :=
  Calm.then h hf

theorem Calm.map {f : α → β} (h : d.Calm mark? P) (hf : ∀ a, P a → Q (f a)) :
    (f <$> d).Calm mark? Q :=
  Does.map h fun _ a ha => ⟨ha.1, hf a ha.2⟩

theorem Calm.does_map {f : α → β} {R : List μ → β → Prop} (h : d.Calm mark? P)
    (hR : ∀ a, P a → R [] (f a)) : (f <$> d).Does mark? R := by
  refine Does.map h fun ms a ha => ?_
  rw [ha.1]
  exact hR a ha.2

/-- A question that is not marked, whatever its answer is. -/
theorem calm_put {question : Engine.Ask} (h : ∀ answer, mark? ⟨question, answer⟩ = none) :
    (put question).Calm mark? fun _ => True := by
  intro answer
  refine ⟨?_, trivial⟩
  rw [List.filterMap_cons_none (h answer), List.filterMap_nil]

end

end AgentSessions.Dialogue
