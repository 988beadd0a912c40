import AgentSessions.Decimal.Shortest
import AgentSessions.Json.Value

/-!
# Writing JSON

A value is written either compactly, without spaces, or indented by two spaces a level. Numbers
that are not whole are written with the fewest digits that read back: in full between `10 ^ (-5)`
and `10 ^ 16`, with an exponent outside. Numbers that JSON cannot express are written as `null`.
-/

set_option autoImplicit false

namespace AgentSessions.Json

def hexDigit (n : Nat) : Char :=
  Nat.digitChar n

/-- A character inside a string: quotes, backslashes and control characters are escaped. -/
def escapeChar (c : Char) : String :=
  match c with
  | '"' => "\\\""
  | '\\' => "\\\\"
  | '\n' => "\\n"
  | '\r' => "\\r"
  | '\t' => "\\t"
  | c =>
      if c.toNat = 8 then "\\b"
      else if c.toNat = 12 then "\\f"
      else if c.toNat < 32 then
        String.ofList ['\\', 'u', '0', '0', hexDigit (c.toNat / 16), hexDigit (c.toNat % 16)]
      else c.toString

def quote (s : String) : String :=
  s.foldl (fun out c => out ++ escapeChar c) "\"" ++ "\""

/-- The exponents of the leading digit for which numbers are written in full. -/
def writtenInFull (leading : Int) : Bool :=
  decide (-5 ≤ leading ∧ leading < 16)

def floatText (x : Binary64) : String :=
  match x with
  | .finite negative m q _ =>
      let d := Binary64.shortest m q
      let size := if writtenInFull d.leading then d.positional 1 else d.scientific
      if negative then "-" ++ size else size
  | _ => "null"

/-- The start of a line at a nesting level; nothing in compact text. -/
def lineBreak (indent : Option Nat) : String :=
  match indent with
  | none => ""
  | some level => level.fold (fun _ _ out => out ++ "  ") "\n"

/-- The nesting level inside a container. -/
def deeper (indent : Option Nat) : Option Nat :=
  indent.map (· + 1)

/-- What stands between a key and its value. -/
def colon (indent : Option Nat) : String :=
  if indent.isSome then ": " else ":"

mutual

def write (indent : Option Nat) (out : String) : Value → String
  | .null => out ++ "null"
  | .bool b => out ++ (if b then "true" else "false")
  | .int i => out ++ toString i
  | .float x => out ++ floatText x
  | .string s => out ++ quote s
  | .array [] => out ++ "[]"
  | .array (item :: rest) =>
      let inner := deeper indent
      let out := write inner (out ++ "[" ++ lineBreak inner) item
      writeItems inner out rest ++ lineBreak indent ++ "]"
  | .object [] => out ++ "\x7b\x7d"
  | .object ((key, value) :: rest) =>
      let inner := deeper indent
      let out := write inner (out ++ "\x7b" ++ lineBreak inner ++ quote key ++ colon indent) value
      writeMembers inner out rest ++ lineBreak indent ++ "\x7d"

def writeItems (indent : Option Nat) (out : String) : List Value → String
  | [] => out
  | item :: rest => writeItems indent (write indent (out ++ "," ++ lineBreak indent) item) rest

def writeMembers (indent : Option Nat) (out : String) : List (String × Value) → String
  | [] => out
  | (key, value) :: rest =>
      let out := out ++ "," ++ lineBreak indent ++ quote key ++ colon indent
      writeMembers indent (write indent out value) rest

end

/-- The text of a value without spaces. -/
def Value.compact (v : Value) : String :=
  write none "" v

/-- The text of a value with one item or member a line. -/
def Value.pretty (v : Value) : String :=
  write (some 0) "" v

end AgentSessions.Json
