import AgentSessions.Proofs.Simulation.Looking
import Mathlib.Logic.Relation

/-!
# Processes that are woken

A process is begun at one moment and woken at later ones, and between two of them others do what
they like. `Comes` says how far it has come at a moment. What may happen in between is the relation
`later`; when the process is woken, and by what, is left open, so what holds of all that `Comes`
holds however the threads of a pool are scheduled.

The process in which others are waited for has one shape (`Proc.awaiting`): it waits until the state
passes a test, but no longer than some milliseconds, and then looks at the state. While it waits it
is always the same thread (`Thread.waiter`), which can be woken exactly when the test passes or the
deadline has come, and which ends then, the test being looked at first.
-/

set_option autoImplicit false

namespace AgentSessions.Simulation

variable {σ α : Type}

/-- The clock and the shared state at a moment. -/
structure Juncture (σ : Type) where
  now : Nat
  state : σ

/-- How far a process that was begun at `first` has come at a moment. -/
inductive Comes (later : Juncture σ → Juncture σ → Prop) (p : Proc σ α) (first : Juncture σ) :
    Juncture σ → Progress σ α → Prop where
  | begun (fuel : Nat) : Comes later p first first (Thread.run fuel first.now p [] first.state)
  | woken {m m' : Juncture σ} {t : Thread σ α} {s : σ} (fuel : Nat) :
      Comes later p first m (.suspended t s) → later ⟨m.now, s⟩ m' →
      Comes later p first m' (t.poll fuel m'.now m'.state)

variable {later : Juncture σ → Juncture σ → Prop} {p : Proc σ α} {first m : Juncture σ}
  {progress : Progress σ α}

/-- A process that begins with a look has seen the state at its first moment. -/
theorem Comes.of_observe {next : σ → Proc σ α} (h : Comes later (.observe next) first m progress) :
    Comes later (next first.state) first m progress := by
  induction h with
  | begun fuel => exact .begun fuel
  | woken fuel _ hlater ih => exact .woken fuel ih hlater

/-- A process that does at once all that it does has come to its end. -/
theorem Proc.Acts.of_comes {a : α} {s : σ} (hp : p.Acts first.now first.state a s)
    (h : Comes later p first m progress) : m = first ∧ progress = .finished a s := by
  induction h with
  | begun fuel =>
      refine ⟨rfl, ?_⟩
      rw [Thread.run, hp.advance]
      cases fuel <;> rfl
  | woken fuel _ _ ih => cases ih.2

/-- A process that only looks leaves every state as it is, and what becomes of the state is up to
the others. -/
theorem Proc.Looks.of_comes (hp : p.Looks) (h : Comes later p first m progress) :
    progress.Leaves m.state ∧ Relation.ReflTransGen later first m := by
  induction h with
  | begun fuel =>
      have hnone : FramesLook ([] : List (Frame σ α)) := fun _ hmem => nomatch hmem
      exact ⟨(hp.advance first.now hnone first.state).lapse first.now fuel, .refl⟩
  | woken fuel _ hlater ih =>
      obtain ⟨⟨ht, rfl⟩, hruns⟩ := ih
      exact ⟨ht.poll fuel _ _, hruns.tail hlater⟩

/-! ## Waiting for others -/

section Awaiting

variable (ms : Nat) (late : α) (ready : σ → Bool) (view : σ → α)

/-- Waits until the state passes a test, but no longer than so many milliseconds; then looks at the
state. -/
def Proc.awaiting : Proc σ α :=
  .within ms (.done late) (.await ready (.leave (.observe fun s => .done (view s))))

theorem Proc.looks_awaiting : (Proc.awaiting ms late ready view).Looks :=
  ⟨trivial, fun _ => trivial⟩

/-- The thread that waits so, until the deadline. -/
def Thread.waiter (deadline : Nat) : Thread σ α :=
  ⟨[.within deadline (.done late)], .waiting ready (.leave (.observe fun s => .done (view s)))⟩

/-- The thread can be woken when the test passes or the deadline has come. -/
theorem Thread.wakeable_waiter (deadline now : Nat) (s : σ) :
    (waiter late ready view deadline).wakeable now s = (ready s || decide (deadline ≤ now)) := by
  rw [wakeable, waiter]
  cases hready : ready s <;> by_cases hdeadline : deadline ≤ now <;>
    simp [tripped, released, expired, hready, hdeadline]

/-- When it is woken then, it ends. The test is looked at first. -/
theorem Thread.poll_waiter (deadline fuel now : Nat) (s : σ) :
    (waiter late ready view deadline).poll fuel now s =
      if ready s then .finished (view s) s
      else if deadline ≤ now then .finished late s
      else .suspended (waiter late ready view deadline) s := by
  rw [poll, waiter]
  by_cases hready : ready s = true
  · rw [if_pos hready]
    simp only [tripped, released, hready, if_true, run, advance]
    cases fuel <;> rfl
  · rw [if_neg hready]
    by_cases hdeadline : deadline ≤ now
    · rw [if_pos hdeadline]
      simp only [tripped, released, hready, expired, hdeadline, if_true, run, advance]
      cases fuel <;> rfl
    · rw [if_neg hdeadline]
      simp [tripped, released, hready, expired, hdeadline]

/-- How far a wait that was begun at `first` has come. -/
inductive Awaits (first m : Juncture σ) : Progress σ α → Prop where
  | ready : ready m.state = true → Awaits first m (.finished (view m.state) m.state)
  | late : ready m.state = false → first.now + ms ≤ m.now →
      Awaits first m (.finished late m.state)
  | waits : ready m.state = false →
      Awaits first m (.suspended (Thread.waiter late ready view (first.now + ms)) m.state)

variable {ms late ready view}

theorem Comes.awaits (h : Comes later (Proc.awaiting ms late ready view) first m progress) :
    Awaits ms late ready view first m progress := by
  -- readiness is looked at before the deadline, at the first poll as at every later one
  induction h with
  | begun fuel =>
      rw [Thread.run, Proc.awaiting, advance, advance]
      cases hready : ready first.state with
      | true =>
          rw [if_pos rfl]
          cases fuel <;> exact .ready hready
      | false =>
          rw [if_neg Bool.false_ne_true]
          cases fuel with
          | zero => exact .waits hready
          | succ fuel =>
              rw [Thread.lapse, Thread.expired]
              by_cases hdeadline : first.now + ms ≤ first.now
              · rw [if_pos hdeadline]
                cases fuel <;> exact .late hready hdeadline
              · rw [if_neg hdeadline]
                exact .waits hready
  | @woken m m' t s fuel _ _ ih =>
      cases ih
      rw [Thread.poll_waiter]
      cases hready : ready m'.state with
      | true => exact .ready hready
      | false =>
          rw [if_neg Bool.false_ne_true]
          by_cases hdeadline : first.now + ms ≤ m'.now
          · rw [if_pos hdeadline]
            exact .late hready hdeadline
          · rw [if_neg hdeadline]
            exact .waits hready

/-- A wait for what is there already is none. -/
theorem Proc.acts_awaiting {s : σ} (hready : ready s = true) (now : Nat) :
    (Proc.awaiting ms late ready view).Acts now s (view s) s := by
  intro β f frames
  show (if ready s then _ else _) = _
  rw [if_pos hready]
  rfl

theorem Comes.eq_first_of_ready
    (h : Comes later (Proc.awaiting ms late ready view) first m progress)
    (hready : ready first.state = true) : m = first :=
  (Proc.Acts.of_comes (Proc.acts_awaiting hready first.now) h).1

end Awaiting

end AgentSessions.Simulation
