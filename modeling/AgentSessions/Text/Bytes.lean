/-!
# Text measured in bytes

Budgets for text are counted in UTF-8 bytes, but text is only ever cut between characters. The
two cuts are `takeBytes` (the longest leading run that fits a budget) and `dropBytes` (what is left
after the shortest leading run that reaches a size). `truncate` shortens a text to a limit and
marks the cut with a suffix that counts toward the limit.
-/

set_option autoImplicit false

namespace AgentSessions.Text

/-- Size of a run of characters in UTF-8 bytes. -/
def byteCount : List Char → Nat
  | [] => 0
  | c :: cs => c.utf8Size + byteCount cs

/-- The longest leading run of whole characters of at most `budget` bytes. -/
def takeBytes : Nat → List Char → List Char
  | _, [] => []
  | budget, c :: cs =>
      if c.utf8Size ≤ budget then c :: takeBytes (budget - c.utf8Size) cs else []

/-- What follows the shortest leading run of whole characters of at least `size` bytes. -/
def dropBytes : Nat → List Char → List Char
  | 0, cs => cs
  | _, [] => []
  | size, c :: cs => dropBytes (size - c.utf8Size) cs

/-- A text of at most `limit` bytes is kept. A longer one is cut on a character boundary so that
what is kept and the `suffix` fit the limit together; a suffix that is itself over the limit stands
alone. -/
def truncateWith (text : String) (limit : Nat) (suffix : String) : String :=
  if text.utf8ByteSize ≤ limit then text
  else String.ofList (takeBytes (limit - suffix.utf8ByteSize) text.toList) ++ suffix

def truncate (text : String) (limit : Nat) : String :=
  truncateWith text limit "..."

/-! ## Blank text and letter case -/

/-- The characters with the Unicode property White_Space. -/
def isBlank (c : Char) : Bool :=
  let n := c.toNat
  (9 ≤ n && n ≤ 13) || n == 0x20 || n == 0x85 || n == 0xA0 || n == 0x1680
    || (0x2000 ≤ n && n ≤ 0x200A) || n == 0x2028 || n == 0x2029 || n == 0x202F || n == 0x205F
    || n == 0x3000

def trimStart (cs : List Char) : List Char :=
  cs.dropWhile isBlank

def trim (text : String) : String :=
  String.ofList ((trimStart (trimStart text.toList).reverse).reverse)

/-- The ASCII capitals become small letters; every other character stays. -/
def lowerAscii (text : String) : String :=
  String.ofList (text.toList.map Char.toLower)

/-! ## Order -/

/-- The order of texts by code point, which is also their order by UTF-8 bytes. -/
def before (a b : String) : Bool :=
  decide (a < b)

end AgentSessions.Text
