import AgentSessions.Proofs.Queue.Entries

/-!
# Messages in the order of their arrival

The reference for the order of a backlog. The messages that wait for one session are kept as they
arrived and are never rearranged; the next one is looked for when it is wanted, as the earliest of
those that nothing exceeds in priority. The order in which they leave is what comes out when the
next one is taken until none is left. A backlog into which every message is put behind all that
have at least its priority is this order: `drainOrder_append`.
-/

set_option autoImplicit false

namespace AgentSessions

namespace Arrivals

open QueueManager (insertByPriority)

variable {arrived : List QueuedMessage} {m : QueuedMessage}

/-! ## The next message -/

/-- Whether nothing in the list exceeds a message in priority. -/
def isTop (arrived : List QueuedMessage) (m : QueuedMessage) : Bool :=
  arrived.all fun other => decide (other.priority ≤ m.priority)

/-- The earliest of the messages of highest priority. -/
def next? (arrived : List QueuedMessage) : Option QueuedMessage :=
  arrived.find? (isTop arrived)

theorem isTop_iff : isTop arrived m = true ↔ ∀ other ∈ arrived, other.priority ≤ m.priority := by
  simp only [isTop, List.all_eq_true, decide_eq_true_eq]

theorem exists_isTop (h : arrived ≠ []) : ∃ m ∈ arrived, isTop arrived m = true := by
  induction arrived with
  | nil => exact absurd rfl h
  | cons first rest ih =>
      by_cases hrest : rest = []
      · subst hrest
        exact ⟨first, List.mem_singleton_self first, isTop_iff.mpr fun other hother => by
          rw [List.mem_singleton.mp hother]
          exact Nat.le_refl _⟩
      · obtain ⟨m, hm, htop⟩ := ih hrest
        have hle := isTop_iff.mp htop
        rcases Nat.le_total first.priority.rank m.priority.rank with hfirst | hfirst
        · refine ⟨m, List.mem_cons_of_mem _ hm, isTop_iff.mpr fun other hother => ?_⟩
          rcases List.mem_cons.mp hother with rfl | hother
          · exact hfirst
          · exact hle other hother
        · refine ⟨first, List.mem_cons_self, isTop_iff.mpr fun other hother => ?_⟩
          rcases List.mem_cons.mp hother with rfl | hother
          · exact Nat.le_refl _
          · exact Nat.le_trans (hle other hother) hfirst

theorem next?_eq_none : next? arrived = none ↔ arrived = [] := by
  constructor
  · intro h
    refine Decidable.byContradiction fun hne => ?_
    obtain ⟨m, hm, htop⟩ := exists_isTop hne
    exact List.find?_eq_none.mp h m hm htop
  · rintro rfl
    rfl

theorem mem_of_next? (h : next? arrived = some m) : m ∈ arrived :=
  List.mem_of_find?_eq_some h

theorem le_of_next? (h : next? arrived = some m) {other : QueuedMessage}
    (hother : other ∈ arrived) : other.priority ≤ m.priority :=
  isTop_iff.mp (List.find?_some h) other hother

/-- The next message has the highest priority, and whatever arrived before it has a lower one. -/
theorem next?_eq_some_iff : next? arrived = some m ↔
    ∃ before after, arrived = before ++ m :: after ∧
      (∀ other ∈ before, other.priority < m.priority) ∧
      ∀ other ∈ after, other.priority ≤ m.priority := by
  constructor
  · intro h
    obtain ⟨_, before, after, hsplit, hnone⟩ := List.find?_eq_some_iff_append.mp h
    have hle : ∀ other ∈ arrived, other.priority ≤ m.priority := fun _ => le_of_next? h
    refine ⟨before, after, hsplit, fun other hother => ?_, fun other hother => hle other ?_⟩
    · -- one of equal priority would have been found first
      refine Nat.lt_of_not_le fun hge => ?_
      have htop : isTop arrived other = true :=
        isTop_iff.mpr fun third hthird => Nat.le_trans (hle third hthird) hge
      simpa [htop] using hnone other hother
    · rw [hsplit]
      exact List.mem_append_right _ (List.mem_cons_of_mem _ hother)
  · rintro ⟨before, after, rfl, hbefore, hafter⟩
    refine List.find?_eq_some_iff_append.mpr ⟨?_, before, after, rfl, fun other hother => ?_⟩
    · refine isTop_iff.mpr fun other hother => ?_
      rcases List.mem_append.mp hother with hother | hother
      · exact Nat.le_of_lt (hbefore other hother)
      · rcases List.mem_cons.mp hother with rfl | hother
        · exact Nat.le_refl _
        · exact hafter other hother
    · rw [Bool.not_eq_true', Bool.eq_false_iff]
      intro htop
      have hm : m ∈ before ++ m :: after := by simp
      exact Nat.not_le_of_lt (hbefore other hother) (isTop_iff.mp htop m hm)

/-- A message that arrives is the next one if it exceeds all others, and leaves the next one in
its place otherwise. -/
theorem next?_append_singleton {next : QueuedMessage} (h : next? arrived = some next)
    (last : QueuedMessage) :
    next? (arrived ++ [last]) =
      if next.priority < last.priority then some last else some next := by
  obtain ⟨before, after, hsplit, hbefore, hafter⟩ := next?_eq_some_iff.mp h
  split
  next hlt =>
    refine next?_eq_some_iff.mpr ⟨arrived, [], rfl, fun other hother => ?_, by simp⟩
    exact Nat.lt_of_le_of_lt (le_of_next? h hother) hlt
  next hlt =>
    refine next?_eq_some_iff.mpr ⟨before, after ++ [last], by simp [hsplit], hbefore, ?_⟩
    intro other hother
    rcases List.mem_append.mp hother with hother | hother
    · exact hafter other hother
    · rw [List.mem_singleton.mp hother]
      exact Nat.le_of_not_lt hlt

/-! ## The order in which messages leave -/

/-- The messages as they leave when the next one is taken out until none is left. -/
def drainOrder (arrived : List QueuedMessage) : List QueuedMessage :=
  match _hnext : next? arrived with
  | none => []
  | some m => m :: drainOrder (arrived.erase m)
termination_by arrived.length
decreasing_by
  have hmem : m ∈ arrived := mem_of_next? ‹_›
  have hpos := List.length_pos_of_mem hmem
  rw [List.length_erase_of_mem hmem]
  omega

theorem drainOrder_nil : drainOrder [] = [] := by
  rw [drainOrder]
  rfl

theorem drainOrder_of_next? (h : next? arrived = some m) :
    drainOrder arrived = m :: drainOrder (arrived.erase m) := by
  rw [drainOrder]
  split
  next hnone =>
    rw [h] at hnone
    cases hnone
  next other hother =>
    obtain rfl : m = other := Option.some.inj (h.symm.trans hother)
    rfl

theorem perm_drainOrder (arrived : List QueuedMessage) : (drainOrder arrived).Perm arrived := by
  induction arrived using drainOrder.induct with
  | case1 arrived hnone =>
      rw [next?_eq_none.mp hnone, drainOrder_nil]
  | case2 arrived m hnext ih =>
      rw [drainOrder_of_next? hnext]
      exact (ih.cons m).trans (List.perm_cons_erase (mem_of_next? hnext)).symm

/-- Messages that arrive one by one leave in the order of the backlog into which each of them is
put by its priority. -/
theorem drainOrder_append (arrived : List QueuedMessage) (last : QueuedMessage) :
    drainOrder (arrived ++ [last]) = insertByPriority last (drainOrder arrived) := by
  induction arrived using drainOrder.induct with
  | case1 arrived hnone =>
      have hlast : next? [last] = some last :=
        next?_eq_some_iff.mpr ⟨[], [], rfl, by simp, by simp⟩
      rw [next?_eq_none.mp hnone, drainOrder_nil, List.nil_append, drainOrder_of_next? hlast,
        List.erase_cons_head, drainOrder_nil, insertByPriority]
  | case2 arrived next hnext ih =>
      have hlast := next?_append_singleton hnext last
      rw [drainOrder_of_next? hnext, insertByPriority]
      split at hlast
      next hlt =>
        -- nothing that arrived before is the last message, whose priority is higher
        have hnew : last ∉ arrived := fun hmem =>
          Nat.not_le_of_lt hlt (le_of_next? hnext hmem)
        rw [if_pos hlt, drainOrder_of_next? hlast, List.erase_append_right _ hnew,
          List.erase_cons_head, List.append_nil, drainOrder_of_next? hnext]
      next hlt =>
        rw [if_neg hlt, drainOrder_of_next? hlast,
          List.erase_append_left _ (mem_of_next? hnext), ih]

end Arrivals

end AgentSessions
