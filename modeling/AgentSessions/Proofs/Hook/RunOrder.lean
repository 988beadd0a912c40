import AgentSessions.Proofs.Hook.Registration
import Mathlib.Data.List.Induction

/-!
# The order of handlers over a history

A registry comes about by registrations and removals. A registration *stands* when nothing later
concerns its name at the same point: neither another registration nor a removal (`standing`).
Whatever was done, the handlers of a point are the standing ones in run order (`RunOrder`): higher
priorities first, and equal ones as they were registered. That is the only run order there is
(`RunOrder.unique`), so nothing else of the history matters.

The handlers are sorted anew with every registration. What carries the argument is therefore that
sorting keeps the order of elements that may stand either way round (`filter_mergeSort`).
-/

set_option autoImplicit false

namespace AgentSessions

variable {β γ : Type}

/-! ## Sorting and equals -/

/-- Sorting keeps the order of elements that may stand either way round. -/
theorem filter_mergeSort {α : Type} {le : α → α → Bool}
    (htrans : ∀ a b c, le a b = true → le b c = true → le a c = true)
    (htotal : ∀ a b, (le a b || le b a) = true) (keep : α → Bool) (l : List α)
    (hequal : ∀ a b, keep a = true → keep b = true → le a b = true) :
    (l.mergeSort le).filter keep = l.filter keep := by
  have hordered : (l.filter keep).Pairwise fun a b => le a b = true :=
    List.pairwise_of_forall_mem_list fun a ha b hb =>
      hequal a b (List.mem_filter.mp ha).2 (List.mem_filter.mp hb).2
  -- they stand in their order in the sorted list, and it has no others
  have hsublist : (l.filter keep).Sublist ((l.mergeSort le).filter keep) := by
    have h := (List.sublist_mergeSort htrans htotal hordered List.filter_sublist).filter keep
    simpa only [List.filter_filter, Bool.and_self] using h
  exact (hsublist.eq_of_length ((List.mergeSort_perm l le).filter keep).length_eq.symm).symm

namespace Handler

/-! ## Run order -/

/-- The handlers are the registered ones in run order: none is behind one of lower priority, and
those of one priority stand as they were registered. -/
structure RunOrder (registered handlers : List (Handler β)) : Prop where
  perm : handlers.Perm registered
  sorted : handlers.Pairwise fun a b => b.priority ≤ a.priority
  fair : ∀ p, handlers.filter (fun h => h.priority = p) = registered.filter fun h => h.priority = p

theorem runOrder_nil : RunOrder ([] : List (Handler β)) [] :=
  ⟨.refl _, .nil, fun _ => rfl⟩

theorem RunOrder.filter {registered handlers : List (Handler β)} (h : RunOrder registered handlers)
    (keep : Handler β → Bool) : RunOrder (registered.filter keep) (handlers.filter keep) where
  perm := h.perm.filter keep
  sorted := h.sorted.sublist List.filter_sublist
  fair p := by
    have hswap (l : List (Handler β)) : (l.filter keep).filter (fun k => k.priority = p) =
        (l.filter fun k => k.priority = p).filter keep := by
      simp only [List.filter_filter, Bool.and_comm]
    rw [hswap, hswap, h.fair p]

/-- Handlers in run order stay so when another one is registered: it is the last of its priority. -/
theorem RunOrder.register {registered handlers : List (Handler β)}
    (h : RunOrder registered handlers) (k : Handler β) :
    RunOrder (registered.filter (fun other => other.name ≠ k.name) ++ [k])
      (Handler.register handlers k) := by
  have hothers := h.filter fun other => other.name ≠ k.name
  constructor
  · exact (List.mergeSort_perm _ _).trans (hothers.perm.append_right [k])
  · have hsorted : (Handler.register handlers k).Pairwise fun a b => notBehind a b = true :=
      List.pairwise_mergeSort notBehind_trans notBehind_total _
    exact hsorted.imp notBehind_iff.mp
  · intro p
    have hequal : ∀ a b : Handler β, decide (a.priority = p) = true →
        decide (b.priority = p) = true → notBehind a b = true := by
      intro a b ha hb
      rw [notBehind_iff, of_decide_eq_true ha, of_decide_eq_true hb]
      exact Int32.le_refl p
    rw [Handler.register, filter_mergeSort notBehind_trans notBehind_total _ _ hequal,
      List.filter_append, List.filter_append, hothers.fair p]

/-- Registered handlers have one run order. -/
theorem RunOrder.unique {registered handlers handlers' : List (Handler β)}
    (h : RunOrder registered handlers) (h' : RunOrder registered handlers') :
    handlers = handlers' := by
  have hperm := h.perm.trans h'.perm.symm
  have hfair : ∀ p, handlers.filter (fun k => k.priority = p) =
      handlers'.filter fun k => k.priority = p := fun p => (h.fair p).trans (h'.fair p).symm
  have hsorted := h.sorted
  have hsorted' := h'.sorted
  clear h h'
  induction handlers generalizing handlers' with
  | nil => exact hperm.nil_eq
  | cons a rest ih =>
      cases handlers' with
      | nil => exact hperm.eq_nil
      | cons b rest' =>
          -- the first of either list has the highest priority of all
          have hfirst : a.priority = b.priority := by
            refine Int32.le_antisymm ?_ ?_
            · rcases List.mem_cons.mp (hperm.mem_iff.mp List.mem_cons_self) with rfl | hmem
              · exact Int32.le_refl _
              · exact List.rel_of_pairwise_cons hsorted' hmem
            · rcases List.mem_cons.mp (hperm.mem_iff.mpr List.mem_cons_self) with rfl | hmem
              · exact Int32.le_refl _
              · exact List.rel_of_pairwise_cons hsorted hmem
          have hsame : a = b := by
            have heads := hfair b.priority
            simp only [List.filter_cons, hfirst, decide_true, if_true] at heads
            exact (List.cons.inj heads).1
          subst hsame
          refine congrArg (a :: ·) (ih (hperm.cons_inv) (fun p => ?_) hsorted.tail hsorted'.tail)
          have htails := hfair p
          by_cases hp : a.priority = p
          · simp only [List.filter_cons, hp, decide_true, if_true] at htails
            exact (List.cons.inj htails).2
          · simpa only [List.filter_cons, hp, decide_false, Bool.false_eq_true, if_false]
              using htails

/-! ## Standing registrations -/

/-- What is done to the handlers of one point. -/
inductive Step (β : Type) where
  | register (h : Handler β)
  | remove (name : String)

namespace Step

/-- The name that a step is about. -/
def name : Step β → String
  | register h => h.name
  | remove name => name

/-- The handlers after a step. -/
def apply (handlers : List (Handler β)) : Step β → List (Handler β)
  | register h => Handler.register handlers h
  | remove name => handlers.filter fun h => h.name ≠ name

end Step

/-- The handlers whose registration stands, in the order of these registrations: no later step is
about the same name. -/
def standing : List (Step β) → List (Handler β)
  | [] => []
  | .register h :: later =>
      if ∀ s ∈ later, s.name ≠ h.name then h :: standing later else standing later
  | .remove _ :: later => standing later

/-- Later steps take away the handlers that they are about, and put theirs behind the others. -/
theorem standing_append (steps later : List (Step β)) :
    standing (steps ++ later) =
      (standing steps).filter (fun h => ∀ s ∈ later, s.name ≠ h.name) ++ standing later := by
  induction steps with
  | nil => rfl
  | cons s rest ih =>
      cases s with
      | remove name => exact ih
      | register h =>
          rw [List.cons_append, standing, standing, ih]
          by_cases hrest : ∀ s ∈ rest, s.name ≠ h.name
          · by_cases hlater : ∀ s ∈ later, s.name ≠ h.name
            · rw [if_pos (List.forall_mem_append.mpr ⟨hrest, hlater⟩), if_pos hrest,
                List.filter_cons, if_pos (decide_eq_true hlater), List.cons_append]
            · rw [if_neg fun h => hlater (List.forall_mem_append.mp h).2, if_pos hrest,
                List.filter_cons, if_neg (by simpa using hlater)]
          · rw [if_neg fun h => hrest (List.forall_mem_append.mp h).1, if_neg hrest]

theorem standing_register (steps : List (Step β)) (h : Handler β) :
    standing (steps ++ [.register h]) =
      (standing steps).filter (fun k => k.name ≠ h.name) ++ [h] := by
  rw [standing_append]
  simp [standing, Step.name, eq_comm]

theorem standing_remove (steps : List (Step β)) (name : String) :
    standing (steps ++ [.remove name]) = (standing steps).filter fun k => k.name ≠ name := by
  rw [standing_append]
  simp [standing, Step.name, eq_comm]

/-- The handlers after any steps are the standing ones in run order. -/
theorem runOrder_standing (steps : List (Step β)) :
    RunOrder (standing steps) (steps.foldl Step.apply []) := by
  induction steps using List.reverseRecOn with
  | nil => exact runOrder_nil
  | append_singleton steps s ih =>
      rw [List.foldl_append]
      cases s with
      | register h =>
          rw [standing_register]
          exact ih.register h
      | remove name =>
          rw [standing_remove]
          exact ih.filter fun k => k.name ≠ name

end Handler

/-! ## Both points of a registry -/

/-- Entries of a list of handlers: sorted by name, and of one name that for calls first. -/
def HookInfo.Precedes (a b : HookInfo) : Prop :=
  a.name < b.name ∨ a.name = b.name ∧ a.point = .preToolUse ∧ b.point = .postToolUse

namespace HookRegistry

open Handler (Step RunOrder standing)

/-- What a change does to the handlers for calls. -/
def Change.preStep? : Change β γ → Option (Step β)
  | .registerPre h => some (.register h)
  | .registerPost _ => none
  | .unregister name => some (.remove name)

/-- What a change does to the handlers for results. -/
def Change.postStep? : Change β γ → Option (Step γ)
  | .registerPre _ => none
  | .registerPost h => some (.register h)
  | .unregister name => some (.remove name)

/-- The handlers for calls whose registration stands. -/
def standingPre (changes : List (Change β γ)) : List (Handler β) :=
  standing (changes.filterMap Change.preStep?)

/-- The handlers for results whose registration stands. -/
def standingPost (changes : List (Change β γ)) : List (Handler γ) :=
  standing (changes.filterMap Change.postStep?)

/-- The handlers of a point come about by what the changes do there. -/
theorem handlers_after {δ : Type} (point : HookRegistry β γ → List (Handler δ))
    (step? : Change β γ → Option (Step δ)) (hempty : point empty = [])
    (hchange : ∀ r c, point (r.change c) = (step? c).elim (point r) (Step.apply (point r)))
    (changes : List (Change β γ)) :
    point (after changes) = (changes.filterMap step?).foldl Step.apply [] := by
  induction changes using List.reverseRecOn with
  | nil => exact hempty
  | append_singleton changes c ih =>
      have hlast : point (after (changes ++ [c])) = point ((after changes).change c) := by
        rw [after_append, List.foldl_cons, List.foldl_nil]
      rw [hlast, hchange, ih, List.filterMap_append, List.foldl_append, List.filterMap_cons]
      cases step? c <;> rfl

theorem runOrder_pre (changes : List (Change β γ)) :
    RunOrder (standingPre changes) (after changes).pre := by
  have hpre := handlers_after pre Change.preStep? rfl
    (fun r c => by cases c <;> rfl) changes
  rw [hpre]
  exact Handler.runOrder_standing _

theorem runOrder_post (changes : List (Change β γ)) :
    RunOrder (standingPost changes) (after changes).post := by
  have hpost := handlers_after post Change.postStep? rfl
    (fun r c => by cases c <;> rfl) changes
  rw [hpost]
  exact Handler.runOrder_standing _

/-! ## The handlers for a tool -/

theorem runOrder_preFor (changes : List (Change β γ)) (tool : String) :
    RunOrder ((standingPre changes).filter fun h => h.accepts tool)
      ((after changes).preFor tool) :=
  (runOrder_pre changes).filter _

theorem runOrder_postFor (changes : List (Change β γ)) (tool : String) :
    RunOrder ((standingPost changes).filter fun h => h.accepts tool)
      ((after changes).postFor tool) :=
  (runOrder_post changes).filter _

/-! ## Removing a name -/

theorem contains_iff (r : HookRegistry β γ) (name : String) :
    r.contains name = true ↔ (∃ h ∈ r.pre, h.name = name) ∨ ∃ h ∈ r.post, h.name = name := by
  simp [contains]

/-- A handler is taken away exactly when there was one of that name at either point. -/
theorem removes_iff (r : HookRegistry β γ) (name : String) :
    r.removes name = true ↔ (∃ h ∈ r.pre, h.name = name) ∨ ∃ h ∈ r.post, h.name = name := by
  have hpre := List.length_filter_le (fun h : Handler β => decide (h.name ≠ name)) r.pre
  have hpost := List.length_filter_le (fun h : Handler γ => decide (h.name ≠ name)) r.post
  have hless {δ : Type} (handlers : List (Handler δ)) :
      (handlers.filter fun h => h.name ≠ name).length < handlers.length ↔
        ∃ h ∈ handlers, h.name = name := by
    rw [List.length_filter_lt_length_iff_exists]
    simp
  rw [removes, decide_eq_true_iff, ← hless, ← hless]
  show (r.pre.filter _).length + (r.post.filter _).length < r.pre.length + r.post.length ↔ _
  omega

/-! ## The list of all handlers -/

theorem nameLe_trans (a b c : HookInfo) (hab : decide (a.name ≤ b.name) = true)
    (hbc : decide (b.name ≤ c.name) = true) : decide (a.name ≤ c.name) = true :=
  decide_eq_true (String.le_trans (of_decide_eq_true hab) (of_decide_eq_true hbc))

theorem nameLe_total (a b : HookInfo) :
    (decide (a.name ≤ b.name) || decide (b.name ≤ a.name)) = true := by
  simpa using String.le_total a.name b.name

/-- A name stands for one handler at each point, so only one pair of infos can share it. -/
theorem pairwise_infos {r : HookRegistry β γ} (h : r.Arranged) :
    (r.pre.map (Handler.info .preToolUse) ++ r.post.map (Handler.info .postToolUse)).Pairwise
      fun a b => a.name = b.name → a.point = .preToolUse ∧ b.point = .postToolUse := by
  have hpart {δ : Type} (point : HookPoint) {handlers : List (Handler δ)}
      (hdistinct : (handlers.map Handler.name).Nodup) :
      (handlers.map (Handler.info point)).Pairwise fun a b =>
        a.name = b.name → a.point = .preToolUse ∧ b.point = .postToolUse :=
    List.pairwise_map.mpr ((List.pairwise_map.mp hdistinct).imp fun hne heq => absurd heq hne)
  refine List.pairwise_append.mpr ⟨hpart _ h.pre.distinct, hpart _ h.post.distinct, ?_⟩
  intro a ha b hb _
  obtain ⟨k, -, rfl⟩ := List.mem_map.mp ha
  obtain ⟨k', -, rfl⟩ := List.mem_map.mp hb
  exact ⟨rfl, rfl⟩

theorem pairwise_list {r : HookRegistry β γ} (h : r.Arranged) :
    r.list.Pairwise HookInfo.Precedes := by
  refine List.pairwise_iff_forall_sublist.mpr fun {a b} hab => ?_
  have hle : a.name ≤ b.name := by
    have hsorted := List.pairwise_mergeSort nameLe_trans nameLe_total
      (r.pre.map (Handler.info .preToolUse) ++ r.post.map (Handler.info .postToolUse))
    exact of_decide_eq_true (List.pairwise_iff_forall_sublist.mp hsorted hab)
  by_cases hname : a.name = b.name
  · -- among infos of one name the list is as it was before it was sorted
    have hgroup := filter_mergeSort nameLe_trans nameLe_total (fun i => i.name = b.name)
      (r.pre.map (Handler.info .preToolUse) ++ r.post.map (Handler.info .postToolUse))
      fun i j hi hj => by
        rw [of_decide_eq_true hi, of_decide_eq_true hj]
        exact decide_eq_true (String.le_refl _)
    have hsublist := hab.filter fun i => i.name = b.name
    rw [list, hgroup] at hsublist
    simp only [List.filter_cons, hname, decide_true, if_true, List.filter_nil] at hsublist
    have hboth := List.pairwise_iff_forall_sublist.mp (pairwise_infos h)
      (hsublist.trans List.filter_sublist)
    exact Or.inr ⟨hname, hboth hname⟩
  · exact Or.inl (Std.lt_of_le_of_ne hle hname)

/-! ## The statement -/

/-- A registry after any changes. The handlers that run for a tool are the standing ones that accept
it, in run order; removing a name takes a handler away exactly when one of that name stands at
either point, and that is when the name is contained; and the list of all handlers has the standing
ones, sorted by name, those for calls before those for results. -/
theorem registry_follows_standing_registrations (changes : List (Change β γ)) :
    (∀ tool handlers, handlers = (after changes).preFor tool ↔
      RunOrder ((standingPre changes).filter fun h => h.accepts tool) handlers) ∧
    (∀ tool handlers, handlers = (after changes).postFor tool ↔
      RunOrder ((standingPost changes).filter fun h => h.accepts tool) handlers) ∧
    (∀ name, ((after changes).removes name = true ↔
        (∃ h ∈ standingPre changes, h.name = name) ∨ ∃ h ∈ standingPost changes, h.name = name) ∧
      (after changes).contains name = (after changes).removes name) ∧
    (after changes).list.Perm
      ((standingPre changes).map (Handler.info .preToolUse) ++
        (standingPost changes).map (Handler.info .postToolUse)) ∧
    (after changes).list.Pairwise HookInfo.Precedes := by
  have hpre := runOrder_pre changes
  have hpost := runOrder_post changes
  refine ⟨fun tool handlers => ?_, fun tool handlers => ?_, fun name => ?_, ?_,
    pairwise_list (arranged_after changes)⟩
  · have hrun := runOrder_preFor changes tool
    exact ⟨fun h => h ▸ hrun, fun h => h.unique hrun⟩
  · have hrun := runOrder_postFor changes tool
    exact ⟨fun h => h ▸ hrun, fun h => h.unique hrun⟩
  · refine ⟨?_, Bool.eq_iff_iff.mpr ((contains_iff _ name).trans (removes_iff _ name).symm)⟩
    simp only [removes_iff, hpre.perm.mem_iff, hpost.perm.mem_iff]
  · exact (List.mergeSort_perm _ _).trans ((hpre.perm.map _).append (hpost.perm.map _))

end HookRegistry

end AgentSessions
