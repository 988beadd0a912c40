import AgentSessions.Json.Decode

/-!
# Looking into values

How a value of free JSON is taken apart: its members by name, as a text, a number, a flag or a list.
A member that is missing and one that is `null` are the same, and a member of another kind is
passed over.
-/

set_option autoImplicit false

namespace AgentSessions.Json.Value

variable {α : Type}

/-! ## Parts -/

/-- The items of an array; anything else has none. -/
def items : Value → List Value
  | array vs => vs
  | _ => []

def texts (v : Value) : List String :=
  v.items.filterMap fun
    | string s => some s
    | _ => none

/-- The members of an object; anything else has none. -/
def members : Value → List (String × Value)
  | object ms => ms
  | _ => []

/-- What a decoder makes of a value. -/
def read? (v : Value) (d : Decoder α) : Option α :=
  (d.value? v).toOption

/-- What a decoder makes of a value; `null` stands for a default. -/
def readOr (v : Value) (d : Decoder α) (default : α) : Option α :=
  if v == null then some default else v.read? d

/-! ## Members -/

def has (v : Value) (key : String) : Bool :=
  v.get key != null

def text? (v : Value) (key : String) : Option String :=
  match v.get key with
  | string s => some s
  | _ => none

def textOr (v : Value) (key default : String) : String :=
  (v.text? key).getD default

def nat? (v : Value) (key : String) : Option Nat :=
  match v.get key with
  | int i => if 0 ≤ i then some i.toNat else none
  | _ => none

def natOr (v : Value) (key : String) (default : Nat) : Nat :=
  (v.nat? key).getD default

def word? (v : Value) (key : String) : Option UInt64 :=
  (v.get key).read? Decoder.uint64

def flag (v : Value) (key : String) : Bool :=
  v.get key == bool true

def list (v : Value) (key : String) : List Value :=
  (v.get key).items

/-! ## Texts -/

mutual

/-- The value with its texts and the names of its members replaced. -/
def mapTexts (f : String → String) : Value → Value
  | string s => string (f s)
  | array vs => array (mapItems f vs)
  | object ms => object (mapMembers f ms)
  | v => v

def mapItems (f : String → String) : List Value → List Value
  | [] => []
  | v :: vs => mapTexts f v :: mapItems f vs

def mapMembers (f : String → String) : List (String × Value) → List (String × Value)
  | [] => []
  | (key, v) :: ms => (f key, mapTexts f v) :: mapMembers f ms

end

mutual

/-- The texts in a value, those in the names of members included. -/
def allTexts : Value → List String
  | string s => [s]
  | array vs => itemTexts vs
  | object ms => memberTexts ms
  | _ => []

def itemTexts : List Value → List String
  | [] => []
  | v :: vs => allTexts v ++ itemTexts vs

def memberTexts : List (String × Value) → List String
  | [] => []
  | (key, v) :: ms => key :: (allTexts v ++ memberTexts ms)

end

end AgentSessions.Json.Value
