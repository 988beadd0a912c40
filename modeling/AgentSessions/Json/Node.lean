import AgentSessions.Json.Value

/-!
# JSON texts as read

A `Node` is what reading a text gives, whether or not the text is sound: members stand in the order
of the text, repeated keys included, and where the text breaks off or goes wrong the tree ends in a
`broken` node or a container that is `cut`. A decoder walks the nodes from left to right, so the
first thing wrong, in the text or in its fit to the wanted type, decides the error.

Some texts are unsound only for a reader that needs their value: a number that is too large, a
string or a key with half a surrogate pair. A decoder that skips them finds nothing wrong.
-/

set_option autoImplicit false

namespace AgentSessions.Json

/-- Why a text cannot be read as a value of some type. -/
inductive Cause where
  | eof
  | malformed
  /-- The text is JSON, but not of the wanted shape. -/
  | data
  deriving DecidableEq, Repr, Inhabited

/-- What is wrong where a text breaks, for a decoder that reads the value, for one that skips it,
and for one that looks for the name of a variant. -/
structure Break where
  read : Cause
  skip : Cause
  variant : Cause
  deriving DecidableEq, Repr

/-- One cause for every decoder. -/
def Break.always (cause : Cause) : Break := ⟨cause, cause, cause⟩

inductive Key where
  | sound (name : String)
  /-- A key with half a surrogate pair. -/
  | halfPaired
  deriving DecidableEq, Repr, Inhabited

/-- The name that a key gives to a decoder that needs it. -/
def Key.read : Key → Except Cause String
  | .sound name => .ok name
  | .halfPaired => .error .malformed

/-- How the items of a container end. -/
inductive Close where
  | closed
  /-- The closing bracket is missing; `afterComma` when a comma has just been read. -/
  | cut (why : Break) (afterComma : Bool)
  deriving DecidableEq, Repr

/-- The container ends too early, with one cause for every decoder. -/
def Close.short (cause : Cause) (afterComma : Bool) : Close :=
  .cut (.always cause) afterComma

/-- A text as read. -/
inductive Node where
  | null
  | bool (b : Bool)
  | int (i : Int)
  | float (x : Binary64)
  /-- A number too large for any type. -/
  | overlarge
  | string (s : String)
  /-- A string with half a surrogate pair. -/
  | halfPaired
  | array (items : List Node) (close : Close)
  | object (members : List (Key × Node)) (close : Close)
  /-- The text goes wrong here. -/
  | broken (why : Break)
  deriving Inhabited

namespace Node

mutual

def ofValue : Value → Node
  | .null => .null
  | .bool b => .bool b
  | .int i => .int i
  | .float x => if x.isFinite then .float x else .null
  | .string s => .string s
  | .array items => .array (ofItems items) .closed
  | .object members => .object (ofMembers members) .closed

def ofItems : List Value → List Node
  | [] => []
  | item :: rest => ofValue item :: ofItems rest

def ofMembers : List (String × Value) → List (Key × Node)
  | [] => []
  | (name, value) :: rest => (.sound name, ofValue value) :: ofMembers rest

end

/-- The node of the first member with this name. -/
def member? (name : String) : List (Key × Node) → Option Node
  | [] => none
  | (key, node) :: rest => if key = .sound name then some node else member? name rest

/-- Going past the end of a container that is read. -/
def Close.pass : Close → Except Cause Unit
  | .closed => .ok ()
  | .cut why _ => .error why.read

/-- Going past the end of a container that is of no interest. -/
def Close.skip : Close → Except Cause Unit
  | .closed => .ok ()
  | .cut why _ => .error why.skip

mutual

/-- Goes past a value that is of no interest. -/
def skip : Node → Except Cause Unit
  | .array items close => do skipItems items; Close.skip close
  | .object members close => do skipMembers members; Close.skip close
  | .broken why => .error why.skip
  | _ => .ok ()

def skipItems : List Node → Except Cause Unit
  | [] => .ok ()
  | item :: rest => do skip item; skipItems rest

def skipMembers : List (Key × Node) → Except Cause Unit
  | [] => .ok ()
  | (_, value) :: rest => do skip value; skipMembers rest

end

/-- The cause when a value of another type is wanted. -/
def mismatch : Node → Cause
  | .overlarge => .malformed
  | .halfPaired => .malformed
  | .broken why => why.read
  | _ => .data

/-- Room for one more level of nesting: `none` is unlimited. -/
def enter : Option Nat → Except Cause (Option Nat)
  | none => .ok none
  | some (level + 2) => .ok (some (level + 1))
  | some _ => .error .malformed

mutual

/-- The node as a value of free JSON: of members with one key the last counts. -/
def toValue (levels : Option Nat) : Node → Except Cause Value
  | .null => .ok .null
  | .bool b => .ok (.bool b)
  | .int i => .ok (.int i)
  | .float x => .ok (.float x)
  | .string s => .ok (.string s)
  | .overlarge => .error .malformed
  | .halfPaired => .error .malformed
  | .broken why => .error why.read
  | .array items close => do
      let inner ← enter levels
      let values ← toItems inner items
      Close.pass close
      .ok (.array values)
  | .object members close => do
      let inner ← enter levels
      let entries ← toMembers inner members []
      Close.pass close
      .ok (.object entries)

def toItems (levels : Option Nat) : List Node → Except Cause (List Value)
  | [] => .ok []
  | item :: rest => do
      let value ← toValue levels item
      let values ← toItems levels rest
      .ok (value :: values)

def toMembers (levels : Option Nat) :
    List (Key × Node) → List (String × Value) → Except Cause (List (String × Value))
  | [], acc => .ok acc
  | (key, node) :: rest, acc => do
      let name ← key.read
      let value ← toValue levels node
      toMembers levels rest (Entries.insert name value acc)

end

end Node

end AgentSessions.Json
