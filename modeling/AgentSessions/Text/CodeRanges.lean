/-!
# Ranges of characters

A class of characters is given by the ranges of code points it fills, in ascending order and apart
from each other. Looking a code point up stops at the first range that begins behind it.
-/

set_option autoImplicit false

namespace AgentSessions.Text

/-- Ranges of code points, each by its first and its last. -/
abbrev CodeRanges := List (Nat × Nat)

namespace CodeRanges

/-- Whether one of the ascending ranges holds the code point. -/
def contains : CodeRanges → Nat → Bool
  | [], _ => false
  | (first, last) :: rest, code =>
      if code < first then false else if code ≤ last then true else contains rest code

/-- Whether every range is in order, and behind `low` and the range before it. -/
def ascendFrom : Nat → CodeRanges → Bool
  | _, [] => true
  | low, (first, last) :: rest => low ≤ first && first ≤ last && ascendFrom (last + 1) rest

theorem le_first_of_ascendFrom {ranges : CodeRanges} {low : Nat}
    (h : ascendFrom low ranges = true) : ∀ r ∈ ranges, low ≤ r.1 := by
  induction ranges generalizing low with
  | nil => simp
  | cons r rest ih =>
      simp only [ascendFrom, Bool.and_eq_true, decide_eq_true_eq] at h
      intro s hs
      rcases List.mem_cons.1 hs with rfl | hs
      · exact h.1.1
      · have := ih h.2 s hs
        omega

/-- Of ascending ranges, the look-up finds a code point exactly when it lies in one of them. -/
theorem contains_iff {ranges : CodeRanges} {low : Nat} (h : ascendFrom low ranges = true)
    (code : Nat) :
    ranges.contains code = true ↔ ∃ r ∈ ranges, r.1 ≤ code ∧ code ≤ r.2 := by
  induction ranges generalizing low with
  | nil => simp [contains]
  | cons r rest ih =>
      obtain ⟨first, last⟩ := r
      simp only [ascendFrom, Bool.and_eq_true, decide_eq_true_eq] at h
      have behind := le_first_of_ascendFrom h.2
      simp only [contains, List.mem_cons, exists_eq_or_imp]
      split
      · constructor
        · simp
        · rintro (⟨_, _⟩ | ⟨r, hr, _, _⟩)
          · omega
          · have := behind r hr
            omega
      · split
        · simp only [true_iff]
          exact .inl (by omega)
        · rw [ih h.2]
          constructor
          · exact .inr
          · rintro (⟨_, _⟩ | found)
            · omega
            · exact found

end CodeRanges

end AgentSessions.Text
