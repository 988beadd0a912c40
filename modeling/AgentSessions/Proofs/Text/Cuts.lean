import AgentSessions.Text.Bytes

/-!
# Where text is cut

Text is cut between characters, so a cut seldom meets a budget of bytes exactly. What `takeBytes`
keeps is the longest beginning that fits its budget (`LongestPrefix`), and what `dropBytes` leaves
is the longest end that fits what remains of the size (`LongestSuffix`). A beginning and an end
whose budgets fit the text together do not overlap: the text is the one, something between them, and
the other (`exists_between`).
-/

set_option autoImplicit false

namespace AgentSessions.Text

/-! ## Sizes

Sizes of runs of characters add up, and they are the sizes of the texts that the runs make. -/

theorem byteCount_append (cs cs' : List Char) :
    byteCount (cs ++ cs') = byteCount cs + byteCount cs' := by
  induction cs with
  | nil => simp [byteCount]
  | cons c cs ih =>
      simp only [List.cons_append, byteCount, ih]
      omega

theorem byteCount_le_of_prefix {part cs : List Char} (h : part <+: cs) :
    byteCount part ≤ byteCount cs := by
  obtain ⟨rest, rfl⟩ := h
  rw [byteCount_append]
  omega

theorem byteCount_le_of_suffix {part cs : List Char} (h : part <:+ cs) :
    byteCount part ≤ byteCount cs := by
  obtain ⟨front, rfl⟩ := h
  rw [byteCount_append]
  omega

/-- Of two beginnings, one with no more bytes leads the other. -/
theorem prefix_of_byteCount_le {part part' cs : List Char} (h : part <+: cs) (h' : part' <+: cs)
    (hle : byteCount part ≤ byteCount part') : part <+: part' := by
  rcases List.prefix_or_prefix_of_prefix h h' with hleads | ⟨rest, rfl⟩
  · exact hleads
  · rw [byteCount_append] at hle
    cases rest with
    | nil => simp
    | cons c rest =>
        have hpos := c.utf8Size_pos
        simp only [byteCount] at hle
        omega

theorem utf8ByteSize_ofList (cs : List Char) : (String.ofList cs).utf8ByteSize = byteCount cs := by
  induction cs with
  | nil => rfl
  | cons c cs ih =>
      rw [String.ofList_cons, String.utf8ByteSize_append, ih]
      simp [byteCount]

theorem byteCount_toList (text : String) : byteCount text.toList = text.utf8ByteSize := by
  rw [← utf8ByteSize_ofList, String.ofList_toList]

theorem byteCount_of_ascii {cs : List Char} (h : ∀ c ∈ cs, c.utf8Size = 1) :
    byteCount cs = cs.length := by
  induction cs with
  | nil => rfl
  | cons c cs ih =>
      obtain ⟨hc, hcs⟩ := List.forall_mem_cons.mp h
      rw [byteCount, hc, ih hcs, List.length_cons, Nat.add_comm]

/-! ## Numbers -/

theorem utf8ByteSize_toString (n : Nat) :
    (toString n).utf8ByteSize = (Nat.toDigits 10 n).length := by
  have hdigits : ∀ c ∈ Nat.toDigits 10 n, c.utf8Size = 1 := by
    intro c hc
    have hdigit := Nat.isDigit_of_mem_toDigits (by decide) (by decide) hc
    simp only [Char.isDigit, Bool.and_eq_true, decide_eq_true_eq] at hdigit
    exact Char.utf8Size_eq_one_iff.mpr (UInt32.le_trans hdigit.2 (by decide))
  rw [Nat.toString_eq_ofList_toDigits, utf8ByteSize_ofList, byteCount_of_ascii hdigits]

/-- A number has at most one digit more than a tenth of what it counts. -/
theorem utf8ByteSize_toString_le (n : Nat) : (toString n).utf8ByteSize ≤ n / 10 + 1 := by
  rw [utf8ByteSize_toString, Nat.length_toDigits_le_iff (by decide) (by omega)]
  have hpow : n / 10 < 10 ^ (n / 10) := Nat.lt_pow_self (by decide)
  calc n < 10 * (n / 10 + 1) := by omega
    _ ≤ 10 * 10 ^ (n / 10) := Nat.mul_le_mul_left 10 hpow
    _ = 10 ^ (n / 10 + 1) := (Nat.pow_succ').symm

/-! ## Beginnings -/

theorem takeBytes_prefix (budget : Nat) (cs : List Char) : takeBytes budget cs <+: cs := by
  induction cs generalizing budget with
  | nil => exact List.nil_prefix
  | cons c cs ih =>
      by_cases hfits : c.utf8Size ≤ budget
      · rw [takeBytes, if_pos hfits]
        exact (List.prefix_cons_inj c).mpr (ih _)
      · rw [takeBytes, if_neg hfits]
        exact List.nil_prefix

/-- What is taken fits the budget. -/
theorem byteCount_takeBytes_le (budget : Nat) (cs : List Char) :
    byteCount (takeBytes budget cs) ≤ budget := by
  induction cs generalizing budget with
  | nil => exact Nat.zero_le budget
  | cons c cs ih =>
      by_cases hfits : c.utf8Size ≤ budget
      · have hrest := ih (budget - c.utf8Size)
        simp only [takeBytes, hfits, if_true, byteCount]
        omega
      · simp [takeBytes, hfits, byteCount]

/-- Every beginning that fits the budget is taken. -/
theorem prefix_takeBytes {budget : Nat} {part cs : List Char} (hpart : part <+: cs)
    (hfits : byteCount part ≤ budget) : part <+: takeBytes budget cs := by
  induction part generalizing budget cs with
  | nil => exact List.nil_prefix
  | cons c part ih =>
      obtain ⟨rest, rfl⟩ := hpart
      simp only [byteCount] at hfits
      rw [List.cons_append, takeBytes, if_pos (by omega)]
      exact (List.prefix_cons_inj c).mpr (ih (List.prefix_append part rest) (by omega))

/-- The longest beginning of a text, in whole characters, that fits a budget of bytes. -/
structure LongestPrefix (budget : Nat) (text part : String) : Prop where
  leads : ∃ rest, part ++ rest = text
  fits : part.utf8ByteSize ≤ budget
  longest : ∀ other rest, other ++ rest = text → other.utf8ByteSize ≤ budget →
    other.utf8ByteSize ≤ part.utf8ByteSize

theorem longestPrefix_takeBytes (budget : Nat) (text : String) :
    LongestPrefix budget text (String.ofList (takeBytes budget text.toList)) where
  leads := by
    obtain ⟨rest, hrest⟩ := takeBytes_prefix budget text.toList
    exact ⟨String.ofList rest, by rw [← String.ofList_append, hrest, String.ofList_toList]⟩
  fits := by
    rw [utf8ByteSize_ofList]
    exact byteCount_takeBytes_le budget text.toList
  longest := by
    rintro other rest rfl hfits
    have hother : other.toList <+: (other ++ rest).toList := ⟨rest.toList, by simp⟩
    rw [← byteCount_toList] at hfits
    rw [utf8ByteSize_ofList, ← byteCount_toList]
    exact byteCount_le_of_prefix (prefix_takeBytes hother hfits)

/-- Nothing fits an empty budget. -/
theorem LongestPrefix.eq_empty {text part : String} (h : LongestPrefix 0 text part) : part = "" :=
  String.utf8ByteSize_eq_zero_iff.mp (Nat.le_zero.mp h.fits)

/-! ## Ends -/

theorem dropBytes_suffix (size : Nat) (cs : List Char) : dropBytes size cs <:+ cs := by
  fun_induction dropBytes size cs with
  | case1 cs => exact List.suffix_rfl
  | case2 => exact List.suffix_rfl
  | case3 size c cs _ ih => exact ih.trans (List.suffix_cons c cs)

/-- What is left fits what remains of the size. -/
theorem byteCount_dropBytes_le (size : Nat) (cs : List Char) :
    byteCount (dropBytes size cs) ≤ byteCount cs - size := by
  fun_induction dropBytes size cs with
  | case1 cs => exact Nat.le_refl _
  | case2 => exact Nat.zero_le _
  | case3 size c cs _ ih =>
      rw [byteCount]
      omega

/-- Every end that fits what remains of the size is left. -/
theorem suffix_dropBytes {size : Nat} {part cs : List Char} (hpart : part <:+ cs)
    (hfits : byteCount part + size ≤ byteCount cs) : part <:+ dropBytes size cs := by
  fun_induction dropBytes size cs with
  | case1 cs => exact hpart
  | case2 => exact hpart
  | case3 size c cs hsize ih =>
      rcases List.suffix_cons_iff.mp hpart with rfl | hpart
      · -- the whole run does not fit, since something is to be dropped
        exact (hsize (by omega)).elim
      · have hle := byteCount_le_of_suffix hpart
        rw [byteCount] at hfits
        exact ih hpart (by omega)

/-- The longest end of a text, in whole characters, that fits a budget of bytes. -/
structure LongestSuffix (budget : Nat) (text part : String) : Prop where
  ends : ∃ front, front ++ part = text
  fits : part.utf8ByteSize ≤ budget
  longest : ∀ front other, front ++ other = text → other.utf8ByteSize ≤ budget →
    other.utf8ByteSize ≤ part.utf8ByteSize

theorem longestSuffix_dropBytes {budget : Nat} {text : String} (h : budget ≤ text.utf8ByteSize) :
    LongestSuffix budget text
      (String.ofList (dropBytes (text.utf8ByteSize - budget) text.toList)) where
  ends := by
    obtain ⟨front, hfront⟩ := dropBytes_suffix (text.utf8ByteSize - budget) text.toList
    exact ⟨String.ofList front, by rw [← String.ofList_append, hfront, String.ofList_toList]⟩
  fits := by
    have hleft := byteCount_dropBytes_le (text.utf8ByteSize - budget) text.toList
    rw [byteCount_toList] at hleft
    rw [utf8ByteSize_ofList]
    omega
  longest := by
    rintro front other rfl hfits
    have hother : other.toList <:+ (front ++ other).toList := ⟨front.toList, by simp⟩
    rw [utf8ByteSize_ofList, ← byteCount_toList other]
    refine byteCount_le_of_suffix (suffix_dropBytes hother ?_)
    rw [byteCount_toList, byteCount_toList]
    omega

/-! ## Between two cuts -/

theorem utf8ByteSize_parts {text first left last : String} (h : first ++ left ++ last = text) :
    first.utf8ByteSize + left.utf8ByteSize + last.utf8ByteSize = text.utf8ByteSize := by
  rw [← h, String.utf8ByteSize_append, String.utf8ByteSize_append]

/-- A beginning and an end that fit the text together do not overlap. -/
theorem exists_between {budget budget' : Nat} {text first last : String}
    (hfirst : LongestPrefix budget text first) (hlast : LongestSuffix budget' text last)
    (hfit : budget + budget' ≤ text.utf8ByteSize) : ∃ left, first ++ left ++ last = text := by
  obtain ⟨rest, hrest⟩ := hfirst.leads
  obtain ⟨front, rfl⟩ := hlast.ends
  have hroom := hfirst.fits
  have hroom' := hlast.fits
  rw [String.utf8ByteSize_append] at hfit
  have hleads : first.toList <+: (front ++ last).toList := ⟨rest.toList, by simp [← hrest]⟩
  have hfront : front.toList <+: (front ++ last).toList := ⟨last.toList, by simp⟩
  obtain ⟨left, hleft⟩ := prefix_of_byteCount_le hleads hfront (by
    rw [byteCount_toList, byteCount_toList]
    omega)
  refine ⟨String.ofList left, ?_⟩
  rw [← String.toList_inj]
  simp [← hleft]

end AgentSessions.Text
