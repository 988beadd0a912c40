import AgentSessions.Proofs.Text.Cuts

/-!
# Truncated text

A text over its limit becomes its longest beginning that leaves room for the suffix, and the suffix.
So a truncated text keeps to its limit, unless the suffix alone is over it; and then the suffix is
all there is. Either way a second truncation finds nothing to do.
-/

set_option autoImplicit false

namespace AgentSessions.Text

theorem truncateWith_of_le {text : String} {limit : Nat} (h : text.utf8ByteSize ≤ limit)
    (suffix : String) : truncateWith text limit suffix = text :=
  if_pos h

theorem truncateWith_of_lt {text : String} {limit : Nat} (h : limit < text.utf8ByteSize)
    (suffix : String) :
    ∃ kept, LongestPrefix (limit - suffix.utf8ByteSize) text kept ∧
      truncateWith text limit suffix = kept ++ suffix :=
  ⟨_, longestPrefix_takeBytes _ text, if_neg (Nat.not_le.mpr h)⟩

/-- A suffix that leaves no room stands alone. -/
theorem truncateWith_of_le_suffix {text suffix : String} {limit : Nat}
    (h : limit < text.utf8ByteSize) (hsuffix : limit ≤ suffix.utf8ByteSize) :
    truncateWith text limit suffix = suffix := by
  obtain ⟨kept, hkept, hcut⟩ := truncateWith_of_lt h suffix
  rw [Nat.sub_eq_zero_of_le hsuffix] at hkept
  rw [hcut, hkept.eq_empty, String.empty_append]

theorem utf8ByteSize_truncateWith_le (text : String) (limit : Nat) (suffix : String) :
    (truncateWith text limit suffix).utf8ByteSize ≤ max limit suffix.utf8ByteSize := by
  by_cases hfits : text.utf8ByteSize ≤ limit
  · rw [truncateWith_of_le hfits]
    omega
  · obtain ⟨kept, hkept, hcut⟩ := truncateWith_of_lt (Nat.not_le.mp hfits) suffix
    have hroom := hkept.fits
    rw [hcut, String.utf8ByteSize_append]
    omega

theorem truncateWith_truncateWith (text : String) (limit : Nat) (suffix : String) :
    truncateWith (truncateWith text limit suffix) limit suffix =
      truncateWith text limit suffix := by
  by_cases hfits : (truncateWith text limit suffix).utf8ByteSize ≤ limit
  · exact truncateWith_of_le hfits suffix
  · -- it is still over the limit, so it is a suffix that is over the limit itself
    have hsize := utf8ByteSize_truncateWith_le text limit suffix
    have hsuffix : limit < suffix.utf8ByteSize := by omega
    have hlong : limit < text.utf8ByteSize := by
      refine Nat.not_le.mp fun hshort => hfits ?_
      rwa [truncateWith_of_le hshort suffix]
    rw [truncateWith_of_le_suffix hlong (Nat.le_of_lt hsuffix)]
    exact truncateWith_of_le_suffix hsuffix (Nat.le_of_lt hsuffix)

/-- **Truncation cuts between characters**, and no earlier than it has to. A text within its limit
stays; of a longer one the longest beginning is kept that leaves room for the suffix, and nothing if
there is no room. What comes of it keeps to the limit, or to the size of the suffix if that is over
the limit, and is not truncated again. -/
theorem truncateWith_keeps_longest_prefix (text : String) (limit : Nat) (suffix : String) :
    (text.utf8ByteSize ≤ limit → truncateWith text limit suffix = text) ∧
      (limit < text.utf8ByteSize → ∃ kept,
        LongestPrefix (limit - suffix.utf8ByteSize) text kept ∧
          truncateWith text limit suffix = kept ++ suffix ∧
          (limit ≤ suffix.utf8ByteSize → kept = "")) ∧
      (truncateWith text limit suffix).utf8ByteSize ≤ max limit suffix.utf8ByteSize ∧
      truncateWith (truncateWith text limit suffix) limit suffix =
        truncateWith text limit suffix := by
  refine ⟨fun hfits => truncateWith_of_le hfits suffix, fun hlong => ?_,
    utf8ByteSize_truncateWith_le text limit suffix, truncateWith_truncateWith text limit suffix⟩
  obtain ⟨kept, hkept, hcut⟩ := truncateWith_of_lt hlong suffix
  refine ⟨kept, hkept, hcut, fun hsuffix => ?_⟩
  rw [Nat.sub_eq_zero_of_le hsuffix] at hkept
  exact hkept.eq_empty

/-- A character that straddles the cut is left out whole. -/
example : truncateWith "aé→😀" 5 "." = "aé." := by decide +kernel

theorem utf8ByteSize_truncate_le (text : String) (limit : Nat) :
    (truncate text limit).utf8ByteSize ≤ max limit 3 :=
  utf8ByteSize_truncateWith_le text limit "..."

/-- A text that is not tiny does not grow when it is truncated. -/
theorem utf8ByteSize_truncate_le_self {text : String} (h : 3 ≤ text.utf8ByteSize) (limit : Nat) :
    (truncate text limit).utf8ByteSize ≤ text.utf8ByteSize := by
  by_cases hfits : text.utf8ByteSize ≤ limit
  · exact Nat.le_of_eq (congrArg String.utf8ByteSize (truncateWith_of_le hfits "..."))
  · have hlimit := utf8ByteSize_truncate_le text limit
    omega

end AgentSessions.Text
