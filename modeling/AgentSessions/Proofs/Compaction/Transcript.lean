import AgentSessions.Compaction.Transcript
import AgentSessions.Proofs.Text.Truncation

/-!
# What is left of a long transcript

A transcript over the limit keeps a beginning and an end, each the longest that fits a quarter of
the limit, where the three dots behind the beginning count toward its quarter. The note between them
says how many bytes were left out. But it takes the dots for text that was kept, so it says three
bytes less (`cap_of_lt`). In a transcript without digits the number can be read off what is left,
and then no other way of cutting the transcript makes it right (`cap_ne_noted`).
-/

set_option autoImplicit false

namespace AgentSessions.Transcript

open Text (LongestPrefix LongestSuffix)

/-- A beginning, dots, a note of how many bytes were left out, and an end. -/
def noted (first : String) (count : Nat) (last : String) : String :=
  first ++ "..." ++ "\n[... " ++ toString count ++ " characters omitted ...]\n" ++ last

theorem utf8ByteSize_dots : "...".utf8ByteSize = 3 := by decide +kernel

/-- Dots and note take 34 bytes besides the number. -/
theorem utf8ByteSize_noted (first : String) (count : Nat) (last : String) :
    (noted first count last).utf8ByteSize =
      first.utf8ByteSize + (toString count).utf8ByteSize + last.utf8ByteSize + 34 := by
  have hopening : "\n[... ".utf8ByteSize = 6 := by decide +kernel
  have hclosing : " characters omitted ...]\n".utf8ByteSize = 25 := by decide +kernel
  simp only [noted, String.utf8ByteSize_append, utf8ByteSize_dots, hopening, hclosing]
  omega

/-! ## What is kept, and what the note says of the rest -/

theorem cap_of_le {limit : Nat} {text : String} (h : text.utf8ByteSize ≤ limit) :
    cap limit text = text :=
  if_pos h

/-- A text over the limit keeps its ends, and the note falls short of what is left out by the
dots. -/
theorem cap_of_lt {limit : Nat} {text : String} (h : limit < text.utf8ByteSize) :
    ∃ first left last, first ++ left ++ last = text ∧ LongestPrefix (limit / 4 - 3) text first ∧
      LongestSuffix (limit / 4) text last ∧
      cap limit text = noted first (left.utf8ByteSize - 3) last := by
  obtain ⟨first, hfirst, hhead⟩ :=
    Text.truncateWith_of_lt (show limit / 4 < text.utf8ByteSize by omega) "..."
  rw [utf8ByteSize_dots] at hfirst
  have hlast := Text.longestSuffix_dropBytes (show limit / 4 ≤ text.utf8ByteSize by omega)
  generalize htail : String.ofList (Text.dropBytes (text.utf8ByteSize - limit / 4) text.toList) =
    last at hlast
  obtain ⟨left, hparts⟩ := Text.exists_between hfirst hlast (by omega)
  refine ⟨first, left, last, hparts, hfirst, hlast, ?_⟩
  have hsize := Text.utf8ByteSize_parts hparts
  have hcount : text.utf8ByteSize - (first.utf8ByteSize + 3 + last.utf8ByteSize) =
      left.utf8ByteSize - 3 := by omega
  simp only [cap, if_neg (Nat.not_le.mpr h), Text.truncate, hhead, htail,
    String.utf8ByteSize_append, utf8ByteSize_dots, hcount, noted]

/-- A character that does not fit is left out whole at either end, and the note counts 22 of the 25
bytes between them. -/
example : cap 20 "aé→😀aé→😀aé→😀" = "a...\n[... 22 characters omitted ...]\n😀" := by
  decide +kernel

/-- **Long transcripts keep both ends.** A transcript of at most 60000 bytes stays. A longer one
keeps the longest beginning that fits 14997 bytes, dots, and the longest end that fits 15000 bytes,
which do not overlap, and it gets shorter. The note between them says three bytes less than are left
out there: it takes the dots for text that was kept. -/
theorem ofTurns_keeps_ends_and_note_falls_short (turns : List Turn) :
    ((render turns).utf8ByteSize ≤ 60000 → ofTurns turns = render turns) ∧
      (60000 < (render turns).utf8ByteSize → ∃ first left last,
        first ++ left ++ last = render turns ∧
          LongestPrefix 14997 (render turns) first ∧
          LongestSuffix 15000 (render turns) last ∧
          30003 < left.utf8ByteSize ∧
          ofTurns turns = noted first (left.utf8ByteSize - 3) last ∧
          (ofTurns turns).utf8ByteSize < (render turns).utf8ByteSize) := by
  refine ⟨cap_of_le, fun hlong => ?_⟩
  obtain ⟨first, left, last, hparts, hfirst, hlast, hcap⟩ := cap_of_lt hlong
  have hsize := Text.utf8ByteSize_parts hparts
  have hroom := hfirst.fits
  have hroom' := hlast.fits
  have hleft : 30003 < left.utf8ByteSize := by omega
  refine ⟨first, left, last, hparts, hfirst, hlast, hleft, hcap, ?_⟩
  have hdigits := Text.utf8ByteSize_toString_le (left.utf8ByteSize - 3)
  rw [ofTurns, show limit = 60000 from rfl, hcap, utf8ByteSize_noted]
  omega

/-! ## Transcripts without digits -/

/-- Whether there are no digits in a text. -/
def Digitless (text : String) : Prop :=
  ∀ c ∈ text.toList, c.isDigit = false

theorem Digitless.ends {first left last : String} (h : Digitless (first ++ left ++ last)) :
    Digitless first ∧ Digitless last := by
  constructor
  · intro c hc
    exact h c (by simp [hc])
  · intro c hc
    exact h c (by simp [hc])

/-- Between ends without digits, the digits are those of the number in the note. -/
theorem filter_isDigit_noted {first last : String} (hfirst : Digitless first)
    (hlast : Digitless last) (count : Nat) :
    (noted first count last).toList.filter Char.isDigit = Nat.toDigits 10 count := by
  have hnone : ∀ {text : String}, Digitless text → text.toList.filter Char.isDigit = [] := by
    intro text h
    exact List.filter_eq_nil_iff.mpr fun c hc => by simp [h c hc]
  have hdots : Digitless "..." := by simp [Digitless]
  have hopening : Digitless "\n[... " := by simp [Digitless]
  have hclosing : Digitless " characters omitted ...]\n" := by simp [Digitless]
  have hnumber : (toString count).toList.filter Char.isDigit = Nat.toDigits 10 count := by
    rw [Nat.toString_eq_ofList_toDigits, String.toList_ofList]
    exact List.filter_eq_self.mpr fun c hc =>
      Nat.isDigit_of_mem_toDigits (by decide) (by decide) hc
  simp only [noted, String.toList_append, List.filter_append, hnone hfirst, hnone hdots,
    hnone hopening, hnumber, hnone hclosing, hnone hlast, List.nil_append, List.append_nil]

/-- Between ends without digits, the number in the note can be read off. -/
theorem count_eq_of_noted_eq {first last first' last' : String} {count count' : Nat}
    (hfirst : Digitless first) (hlast : Digitless last) (hfirst' : Digitless first')
    (hlast' : Digitless last') (h : noted first count last = noted first' count' last') :
    count = count' := by
  have hdigits : Nat.toDigits 10 count = Nat.toDigits 10 count' := by
    rw [← filter_isDigit_noted hfirst hlast, h, filter_isDigit_noted hfirst' hlast']
  calc count
      = Nat.ofDigitChars 10 (Nat.toDigits 10 count) 0 := Nat.ofDigitChars_ten_toDigits.symm
    _ = Nat.ofDigitChars 10 (Nat.toDigits 10 count') 0 := by rw [hdigits]
    _ = count' := Nat.ofDigitChars_ten_toDigits

/-- However a text without digits is cut, the note does not say how much was left out. -/
theorem cap_ne_noted {limit : Nat} {text first left last : String}
    (h : limit < text.utf8ByteSize) (hdigitless : Digitless text)
    (hparts : first ++ left ++ last = text) :
    cap limit text ≠ noted first left.utf8ByteSize last := by
  intro hcap
  obtain ⟨first', left', last', hparts', hfirst', hlast', hcap'⟩ := cap_of_lt h
  have hsame := hcap.symm.trans hcap'
  -- the number is the same in both, so as much is kept in both, and as much is left out
  have hcount : left.utf8ByteSize = left'.utf8ByteSize - 3 := by
    obtain ⟨hf, hl⟩ := Digitless.ends (hparts ▸ hdigitless)
    obtain ⟨hf', hl'⟩ := Digitless.ends (hparts' ▸ hdigitless)
    exact count_eq_of_noted_eq hf hl hf' hl' hsame
  have hkept : first.utf8ByteSize + last.utf8ByteSize =
      first'.utf8ByteSize + last'.utf8ByteSize := by
    have hsizes := congrArg String.utf8ByteSize hsame
    rw [utf8ByteSize_noted, utf8ByteSize_noted, hcount] at hsizes
    omega
  have hsize := Text.utf8ByteSize_parts hparts
  have hsize' := Text.utf8ByteSize_parts hparts'
  have hroom := hfirst'.fits
  have hroom' := hlast'.fits
  omega

/-- A prompt of so many characters. -/
def monotonous (count : Nat) : List Turn :=
  [.user (String.ofList (List.replicate count 'x')) default]

theorem render_user (content : String) (now : Instant) :
    render [.user content now] = "[USER] " ++ content :=
  rfl

theorem utf8ByteSize_render_monotonous (count : Nat) :
    (render (monotonous count)).utf8ByteSize = count + 7 := by
  have htag : "[USER] ".utf8ByteSize = 7 := by decide +kernel
  have hascii : ∀ c ∈ List.replicate count 'x', c.utf8Size = 1 := by
    intro c hc
    rw [List.eq_of_mem_replicate hc]
    rfl
  rw [monotonous, render_user, String.utf8ByteSize_append, htag, Text.utf8ByteSize_ofList,
    Text.byteCount_of_ascii hascii, List.length_replicate, Nat.add_comm]

theorem digitless_render_monotonous (count : Nat) : Digitless (render (monotonous count)) := by
  have htag : Digitless "[USER] " := by simp [Digitless]
  intro c hc
  rw [monotonous, render_user, String.toList_append] at hc
  rcases List.mem_append.mp hc with hc | hc
  · exact htag c hc
  · rw [String.toList_ofList] at hc
    rw [List.eq_of_mem_replicate hc]
    rfl

/-- What is left of the transcript of a prompt of 60000 characters is no beginning and end of it
with a note between them that says how many bytes were left out. -/
theorem note_of_long_prompt_falls_short :
    60000 < (render (monotonous 60000)).utf8ByteSize ∧
      ¬ ∃ first left last, first ++ left ++ last = render (monotonous 60000) ∧
        first.utf8ByteSize ≤ 15000 ∧ last.utf8ByteSize ≤ 15000 ∧
        ofTurns (monotonous 60000) = noted first left.utf8ByteSize last := by
  have hlong : 60000 < (render (monotonous 60000)).utf8ByteSize := by
    rw [utf8ByteSize_render_monotonous]
    omega
  refine ⟨hlong, ?_⟩
  rintro ⟨first, left, last, hparts, -, -, hnoted⟩
  exact cap_ne_noted hlong (digitless_render_monotonous 60000) hparts hnoted

end AgentSessions.Transcript
