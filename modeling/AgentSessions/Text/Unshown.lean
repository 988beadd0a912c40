import AgentSessions.Text.Extending
import AgentSessions.Text.Unassigned

/-!
# Characters that are not shown as they are

A character is not shown as it is when it leaves no mark of its own: a control or format character,
a blank other than the space, a line or paragraph separator, a filler, a private character, one that
extends the character before it, or a code point without a character.
-/

set_option autoImplicit false

namespace AgentSessions.Text

/-- The ranges of control and format characters, blanks other than the space, separators, fillers
and private characters; of those that also extend the character before them none is listed. -/
def blank : CodeRanges :=
  [
    (0x0, 0x1f), (0x7f, 0xa0), (0xad, 0xad), (0x600, 0x605), (0x61c, 0x61c), (0x6dd, 0x6dd),
    (0x70f, 0x70f), (0x890, 0x891), (0x8e2, 0x8e2), (0x115f, 0x1160), (0x1680, 0x1680),
    (0x180e, 0x180e), (0x2000, 0x200b), (0x200d, 0x200f), (0x2028, 0x202f), (0x205f, 0x2064),
    (0x2066, 0x206f), (0x3000, 0x3000), (0x3164, 0x3164), (0xe000, 0xf8ff), (0xfeff, 0xfeff),
    (0xffa0, 0xffa0), (0xfff9, 0xfffb), (0x110bd, 0x110bd), (0x110cd, 0x110cd),
    (0x13430, 0x1343f), (0x1bca0, 0x1bca3), (0x1d173, 0x1d17a), (0xe0001, 0xe0001),
    (0xf0000, 0xffffd), (0x100000, 0x10fffd) ]

theorem blank_ascends : blank.ascendFrom 0 = true := by
  decide +kernel

/-- Whether a character is not shown as it is. -/
def isUnshown (c : Char) : Bool :=
  blank.contains c.toNat || extending.contains c.toNat || unassigned.contains c.toNat

end AgentSessions.Text
