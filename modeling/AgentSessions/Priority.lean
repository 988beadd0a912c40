import AgentSessions.Json.Decode
import AgentSessions.Text.Bytes

/-!
# Priorities

The four priorities of a prompt, ordered from low to urgent.
-/

set_option autoImplicit false

namespace AgentSessions

inductive Priority where
  | low
  | normal
  | high
  | urgent
  deriving DecidableEq, Repr

namespace Priority

instance : Inhabited Priority := ⟨normal⟩

/-- The place in the order. -/
def rank : Priority → Nat
  | low => 0
  | normal => 1
  | high => 2
  | urgent => 3

instance : LT Priority := ⟨fun a b => a.rank < b.rank⟩
instance : LE Priority := ⟨fun a b => a.rank ≤ b.rank⟩
instance (a b : Priority) : Decidable (a < b) := inferInstanceAs (Decidable (a.rank < b.rank))
instance (a b : Priority) : Decidable (a ≤ b) := inferInstanceAs (Decidable (a.rank ≤ b.rank))

def name : Priority → String
  | low => "low"
  | normal => "normal"
  | high => "high"
  | urgent => "urgent"

/-- The priorities in order. -/
def all : List Priority := [low, normal, high, urgent]

def names : List (String × Priority) :=
  all.map fun p => (p.name, p)

/-- Reads a name in any case; the error shows the name in small letters. -/
def parse (text : String) : Except String Priority :=
  let lowered := Text.lowerAscii text
  match Entries.get? lowered names with
  | some p => .ok p
  | none => .error ("unknown priority: " ++ lowered)

def encode (p : Priority) : Json.Value :=
  .string p.name

def decoder : Json.Decoder Priority :=
  Json.Decoder.oneOf names

/-- The priorities from low to urgent, equal ones in their former order. -/
def sort (ps : List Priority) : List Priority :=
  ps.mergeSort fun a b => decide (a ≤ b)

def highest (ps : List Priority) : Option Priority :=
  (sort ps).getLast?

def lowest (ps : List Priority) : Option Priority :=
  (sort ps).head?

end Priority

end AgentSessions
