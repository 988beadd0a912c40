import AgentSessions.Simulation.Thread

/-!
# Processes that only look and processes that act at once

A process that never replaces the state it shares (`Proc.Looks`). However far such a process gets,
and whatever it is woken by later, the state stays as it is (`Thread.Looks.poll`).

A process that does all it does before it could have to wait (`Proc.Acts`). What comes behind it
goes on from the state that it leaves, whatever brackets it stands in.
-/

set_option autoImplicit false

namespace AgentSessions.Simulation

variable {σ α β : Type}

/-- The process never replaces the state. -/
def Proc.Looks : Proc σ α → Prop
  | .done _ | .panic | .hang => True
  | .observe next => ∀ s, (next s).Looks
  | .update _ _ => False
  | .clock next => ∀ now, (next now).Looks
  | .sleep _ next | .await _ next | .pause next | .leave next => next.Looks
  | .unless _ instead body | .within _ instead body => instead.Looks ∧ body.Looks

theorem Proc.Looks.bind {p : Proc σ α} {f : α → Proc σ β} (hp : p.Looks)
    (hf : ∀ a, (f a).Looks) : (p.bind f).Looks := by
  induction p with
  | done a => exact hf a
  | panic | hang => trivial
  | observe next ih => exact fun s => ih s (hp s)
  | update s next ih => exact hp.elim
  | clock next ih => exact fun now => ih now (hp now)
  | sleep ms next ih | await ready next ih | pause next ih | leave next ih => exact ih hp
  | «unless» tripped instead body ihi ihb | within ms instead body ihi ihb =>
      exact ⟨ihi hp.1, ihb hp.2⟩

theorem Proc.looks_orTripped {p : Proc σ α} (hp : p.Looks) (tripped : σ → Bool) :
    (p.orTripped tripped).Looks :=
  ⟨trivial, hp.bind fun _ => trivial⟩

theorem Proc.looks_orTimeout {p : Proc σ α} (hp : p.Looks) (ms : Nat) :
    (p.orTimeout ms).Looks :=
  ⟨trivial, hp.bind fun _ => trivial⟩

theorem Proc.Looks.map {p : Proc σ α} (hp : p.Looks) (f : α → β) : (f <$> p).Looks :=
  hp.bind fun _ => trivial

/-! ## Threads -/

/-- What a bracket is left for. -/
def Frame.instead : Frame σ α → Proc σ α
  | .unless _ instead | .within _ instead => instead

/-- Whatever the brackets are left for only looks. -/
def FramesLook (frames : List (Frame σ α)) : Prop :=
  ∀ frame ∈ frames, frame.instead.Looks

/-- What goes on after the wait only looks. -/
def Suspension.Looks : Suspension σ α → Prop
  | .runnable next | .sleeping _ next | .waiting _ next => next.Looks
  | .never => True

/-- The thread never replaces the state. -/
structure Thread.Looks (t : Thread σ α) : Prop where
  frames : FramesLook t.frames
  point : t.point.Looks

/-- The state is as it was, and whoever still waits only looks. -/
def Progress.Leaves (s : σ) : Progress σ α → Prop
  | .finished _ s' | .panicked s' => s' = s
  | .suspended t s' => t.Looks ∧ s' = s

/-- The state that a process leaves when it ends or has to wait. -/
def Progress.state : Progress σ α → σ
  | .finished _ s | .panicked s | .suspended _ s => s

theorem Progress.Leaves.state_eq {progress : Progress σ α} {s : σ} (h : progress.Leaves s) :
    progress.state = s := by
  cases progress with
  | finished a s' | panicked s' => exact h
  | suspended t s' => exact h.2

theorem Proc.Looks.advance {p : Proc σ α} (hp : p.Looks) (now : Nat) {frames : List (Frame σ α)}
    (hframes : FramesLook frames) (s : σ) :
    (Simulation.advance now p frames s).Leaves s := by
  fun_induction Simulation.advance now p frames s with
  | case1 a frames s => rfl
  | case2 frames s => rfl
  | case3 s frames next ih => exact ih (hp _) hframes
  | case4 frames s s' next ih => exact hp.elim
  | case5 frames s next ih => exact ih (hp now) hframes
  | case6 frames s next ih => exact ih hp hframes
  | case7 frames s ms next hms => exact ⟨⟨hframes, hp⟩, rfl⟩
  | case8 frames s ready next hready ih => exact ih hp hframes
  | case9 frames s ready next hready => exact ⟨⟨hframes, hp⟩, rfl⟩
  | case10 frames s next => exact ⟨⟨hframes, hp⟩, rfl⟩
  | case11 frames s => exact ⟨⟨hframes, trivial⟩, rfl⟩
  | case12 frames s tripped instead body htripped ih => exact ih hp.1 hframes
  | case13 frames s tripped instead body htripped ih =>
      exact ih hp.2 (List.forall_mem_cons.mpr ⟨hp.1, hframes⟩)
  | case14 frames s ms instead body ih =>
      exact ih hp.2 (List.forall_mem_cons.mpr ⟨hp.1, hframes⟩)
  | case15 frames s next ih =>
      exact ih hp fun frame hmem => hframes frame (List.mem_of_mem_tail hmem)

theorem looks_of_tripped {s : σ} {frames outer : List (Frame σ α)} {p : Proc σ α}
    (hframes : FramesLook frames) (h : Thread.tripped s frames = some (p, outer)) :
    p.Looks ∧ FramesLook outer := by
  induction frames with
  | nil => cases h
  | cons frame rest ih =>
      obtain ⟨hframe, hrest⟩ := List.forall_mem_cons.mp hframes
      unfold Thread.tripped at h
      split at h
      · rename_i found hfound
        cases h
        exact ih hrest hfound
      · split at h
        · split at h
          · cases h
            exact ⟨hframe, hrest⟩
          · cases h
        · cases h

theorem looks_of_expired {now : Nat} {frames outer : List (Frame σ α)} {p : Proc σ α}
    (hframes : FramesLook frames) (h : Thread.expired now frames = some (p, outer)) :
    p.Looks ∧ FramesLook outer := by
  induction frames with
  | nil => cases h
  | cons frame rest ih =>
      obtain ⟨hframe, hrest⟩ := List.forall_mem_cons.mp hframes
      cases frame with
      | «unless» tripped instead => exact ih hrest h
      | within deadline instead =>
          rw [Thread.expired] at h
          split at h
          · cases h
            exact ⟨hframe, hrest⟩
          · exact ih hrest h

theorem looks_of_released {now : Nat} {s : σ} {point : Suspension σ α} {p : Proc σ α}
    (hpoint : point.Looks) (h : Thread.released now s point = some p) : p.Looks := by
  cases point with
  | runnable next =>
      cases h
      exact hpoint
  | sleeping deadline next | waiting ready next =>
      simp only [Thread.released, Option.ite_none_right_eq_some, Option.some.injEq] at h
      exact h.2 ▸ hpoint
  | never => cases h

theorem Progress.Leaves.lapse {progress : Progress σ α} {s : σ} (h : progress.Leaves s)
    (now fuel : Nat) : (Thread.lapse now fuel progress).Leaves s := by
  induction fuel generalizing progress with
  | zero => exact h
  | succ fuel ih =>
      cases progress with
      | finished a s' | panicked s' => exact h
      | suspended t s' =>
          obtain ⟨ht, rfl⟩ := h
          unfold Thread.lapse
          split
          · rename_i p frames hexpired
            obtain ⟨hp, hframes⟩ := looks_of_expired ht.frames hexpired
            exact ih (hp.advance now hframes s')
          · exact ⟨ht, rfl⟩

/-- Whatever wakes a thread that only looks, the state stays as it is. -/
theorem Thread.Looks.poll {t : Thread σ α} (ht : t.Looks) (fuel now : Nat) (s : σ) :
    (t.poll fuel now s).Leaves s := by
  unfold Thread.poll
  split
  · rename_i p frames htripped
    obtain ⟨hp, hframes⟩ := looks_of_tripped ht.frames htripped
    exact (hp.advance now hframes s).lapse now fuel
  · split
    · rename_i p hreleased
      have hp := looks_of_released ht.point hreleased
      exact (hp.advance now ht.frames s).lapse now fuel
    · split
      · rename_i p frames hexpired
        obtain ⟨hp, hframes⟩ := looks_of_expired ht.frames hexpired
        exact (hp.advance now hframes s).lapse now fuel
      · exact ⟨ht, rfl⟩

/-! ## Acting at once -/

theorem Proc.bind_assoc {γ : Type} (p : Proc σ α) (f : α → Proc σ β) (g : β → Proc σ γ) :
    (p.bind f).bind g = p.bind fun a => (f a).bind g := by
  induction p with
  | done a | panic | hang => rfl
  | observe next ih => exact congrArg Proc.observe (funext ih)
  | clock next ih => exact congrArg Proc.clock (funext ih)
  | update s next ih => exact congrArg (Proc.update s) ih
  | sleep ms next ih => exact congrArg (Proc.sleep ms) ih
  | await ready next ih => exact congrArg (Proc.await ready) ih
  | pause next ih => exact congrArg Proc.pause ih
  | leave next ih => exact congrArg Proc.leave ih
  | «unless» tripped instead body ihi ihb | within ms instead body ihi ihb =>
      simp only [Proc.bind, ihi, ihb]

theorem Proc.bind_done (p : Proc σ α) : p.bind Proc.done = p := by
  induction p with
  | done a | panic | hang => rfl
  | observe next ih => exact congrArg Proc.observe (funext ih)
  | clock next ih => exact congrArg Proc.clock (funext ih)
  | update s next ih => exact congrArg (Proc.update s) ih
  | sleep ms next ih => exact congrArg (Proc.sleep ms) ih
  | await ready next ih => exact congrArg (Proc.await ready) ih
  | pause next ih => exact congrArg Proc.pause ih
  | leave next ih => exact congrArg Proc.leave ih
  | «unless» tripped instead body ihi ihb | within ms instead body ihi ihb =>
      simp only [Proc.bind, ihi, ihb]

/-- Without a wait the process takes one state to the other and gives a result. -/
def Proc.Acts (now : Nat) (p : Proc σ α) (s : σ) (a : α) (s' : σ) : Prop :=
  ∀ {β : Type} (f : α → Proc σ β) (frames : List (Frame σ β)),
    Simulation.advance now (p.bind f) frames s = Simulation.advance now (f a) frames s'

variable {now : Nat} {p : Proc σ α} {s s' s'' : σ} {a : α}

theorem Proc.Acts.bind {f : α → Proc σ β} {b : β} (hp : p.Acts now s a s')
    (hf : (f a).Acts now s' b s'') : (p.bind f).Acts now s b s'' := by
  intro γ g frames
  rw [p.bind_assoc f g, hp, hf]

theorem Proc.Acts.map (hp : p.Acts now s a s') (f : α → β) : (f <$> p).Acts now s (f a) s' :=
  hp.bind (f := fun a => .done (f a)) fun _ _ => rfl

theorem Proc.Acts.advance (hp : p.Acts now s a s') :
    Simulation.advance now p [] s = .finished a s' := by
  have hacts := hp Proc.done []
  rw [p.bind_done] at hacts
  exact hacts

end AgentSessions.Simulation
