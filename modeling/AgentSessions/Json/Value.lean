import AgentSessions.Dict
import AgentSessions.Decimal.Binary64

/-!
# JSON values

`Json.Value` is the tree of a JSON text. The members of an object are kept in a list, in the order
in which they are written. Free JSON (arguments of tools, metadata) has its members sorted by key,
each key once, at every level, and its numbers are finite: such values are *canonical*, and
`Json.Object` is an object with that property. The encoding of a record lists its fields in their
order of declaration.
-/

set_option autoImplicit false

namespace AgentSessions.Json

/-- A JSON value. Whole numbers that fit a word of 64 bits are kept apart from all others. -/
inductive Value where
  | null
  | bool (b : Bool)
  | int (i : Int)
  | float (x : Binary64)
  | string (s : String)
  | array (items : List Value)
  | object (members : List (String × Value))
  deriving Inhabited

namespace Value

mutual

def decEq : (a b : Value) → Decidable (a = b)
  | .null, b => by cases b <;> first | exact isTrue rfl | exact isFalse (by simp)
  | .bool x, b => match b with
      | .bool y => if h : x = y then isTrue (by rw [h]) else isFalse (by simpa using h)
      | .null | .int _ | .float _ | .string _ | .array _ | .object _ => isFalse (by simp)
  | .int x, b => match b with
      | .int y => if h : x = y then isTrue (by rw [h]) else isFalse (by simpa using h)
      | .null | .bool _ | .float _ | .string _ | .array _ | .object _ => isFalse (by simp)
  | .float x, b => match b with
      | .float y => if h : x = y then isTrue (by rw [h]) else isFalse (by simpa using h)
      | .null | .bool _ | .int _ | .string _ | .array _ | .object _ => isFalse (by simp)
  | .string x, b => match b with
      | .string y => if h : x = y then isTrue (by rw [h]) else isFalse (by simpa using h)
      | .null | .bool _ | .int _ | .float _ | .array _ | .object _ => isFalse (by simp)
  | .array xs, b => match b with
      | .array ys => match decEqItems xs ys with
          | isTrue h => isTrue (by rw [h])
          | isFalse h => isFalse (by simpa using h)
      | .null | .bool _ | .int _ | .float _ | .string _ | .object _ => isFalse (by simp)
  | .object xs, b => match b with
      | .object ys => match decEqMembers xs ys with
          | isTrue h => isTrue (by rw [h])
          | isFalse h => isFalse (by simpa using h)
      | .null | .bool _ | .int _ | .float _ | .string _ | .array _ => isFalse (by simp)

def decEqItems : (as bs : List Value) → Decidable (as = bs)
  | [], [] => isTrue rfl
  | [], _ :: _ => isFalse (by simp)
  | _ :: _, [] => isFalse (by simp)
  | a :: as, b :: bs => match decEq a b, decEqItems as bs with
      | isTrue h, isTrue k => isTrue (by rw [h, k])
      | isFalse h, _ => isFalse (by simp [h])
      | _, isFalse k => isFalse (by simp [k])

def decEqMembers : (as bs : List (String × Value)) → Decidable (as = bs)
  | [], [] => isTrue rfl
  | [], _ :: _ => isFalse (by simp)
  | _ :: _, [] => isFalse (by simp)
  | (k, a) :: as, (l, b) :: bs =>
      if h : k = l then
        match decEq a b, decEqMembers as bs with
        | isTrue i, isTrue j => isTrue (by rw [h, i, j])
        | isFalse i, _ => isFalse (by simp [i])
        | _, isFalse j => isFalse (by simp [j])
      else isFalse (by simp [h])

end

instance : DecidableEq Value := decEq

mutual

/-- Whether the members of every object in the value are sorted by key, each key once, and every
number is finite. -/
def isCanonical : Value → Bool
  | .float x => x.isFinite
  | .array items => areCanonical items
  | .object members => decide (Entries.Sorted members) && membersCanonical members
  | _ => true

def areCanonical : List Value → Bool
  | [] => true
  | item :: rest => isCanonical item && areCanonical rest

def membersCanonical : List (String × Value) → Bool
  | [] => true
  | (_, value) :: rest => isCanonical value && membersCanonical rest

end

mutual

/-- The canonical value: members sorted by key, of a repeated key the last, and `null` for a number
that JSON cannot express. -/
def canonicalize : Value → Value
  | .float x => if x.isFinite then .float x else .null
  | .array items => .array (canonicalizeItems items)
  | .object members => .object (canonicalizeMembers members [])
  | other => other

def canonicalizeItems : List Value → List Value
  | [] => []
  | item :: rest => canonicalize item :: canonicalizeItems rest

def canonicalizeMembers : List (String × Value) → List (String × Value) → List (String × Value)
  | [], acc => acc
  | (key, value) :: rest, acc =>
      canonicalizeMembers rest (Entries.insert key (canonicalize value) acc)

end

/-- The object of the fields that are present, in the given order. -/
def record (fields : List (Option (String × Value))) : Value :=
  .object (fields.filterMap id)

def field (name : String) (value : Value) : Option (String × Value) :=
  some (name, value)

/-- A field that is written when it has a value. -/
def optional {α : Type} (name : String) (encode : α → Value) (value : Option α) :
    Option (String × Value) :=
  value.map fun a => (name, encode a)

/-- A field that is written only when `shown`. -/
def fieldIf (shown : Bool) (name : String) (value : Value) : Option (String × Value) :=
  if shown then some (name, value) else none

/-- The value `null` for an absent one. -/
def nullable {α : Type} (encode : α → Value) : Option α → Value
  | none => .null
  | some a => encode a

def nat (n : Nat) : Value :=
  .int (n : Int)

def strings (texts : List String) : Value :=
  .array (texts.map .string)

/-- The member of an object with this key; `null` when there is none. -/
def get (v : Value) (key : String) : Value :=
  match v with
  | .object members => (Entries.get? key members).getD .null
  | _ => .null

end Value

/-! ## Objects -/

theorem membersCanonical_insert {key : String} {value : Value}
    {members : List (String × Value)} (hv : value.isCanonical = true)
    (hm : Value.membersCanonical members = true) :
    Value.membersCanonical (Entries.insert key value members) = true := by
  induction members with
  | nil => simp [Entries.insert, Value.membersCanonical, hv]
  | cons head rest ih =>
      obtain ⟨k, v⟩ := head
      simp only [Value.membersCanonical, Bool.and_eq_true] at hm
      rw [Entries.insert]
      split
      · simp [Value.membersCanonical, hv, hm.2]
      · split
        · simp [Value.membersCanonical, hv, hm.1, hm.2]
        · simp [Value.membersCanonical, hm.1, ih hm.2]

mutual

theorem isCanonical_canonicalize : (v : Value) → v.canonicalize.isCanonical = true
  | .null => rfl
  | .bool _ => rfl
  | .int _ => rfl
  | .float x => by
      rw [Value.canonicalize]
      split
      · assumption
      · rfl
  | .string _ => rfl
  | .array items => by
      simpa [Value.canonicalize, Value.isCanonical] using areCanonical_canonicalizeItems items
  | .object members => by
      have h := canonical_canonicalizeMembers members [] List.Pairwise.nil rfl
      simp [Value.canonicalize, Value.isCanonical, h.1, h.2]

theorem areCanonical_canonicalizeItems :
    (items : List Value) → Value.areCanonical (Value.canonicalizeItems items) = true
  | [] => rfl
  | item :: rest => by
      simp [Value.canonicalizeItems, Value.areCanonical, isCanonical_canonicalize item,
        areCanonical_canonicalizeItems rest]

theorem canonical_canonicalizeMembers :
    (members acc : List (String × Value)) → Entries.Sorted acc →
      Value.membersCanonical acc = true →
      Entries.Sorted (Value.canonicalizeMembers members acc) ∧
        Value.membersCanonical (Value.canonicalizeMembers members acc) = true
  | [], _, hs, hm => ⟨hs, hm⟩
  | (key, value) :: rest, acc, hs, hm => by
      rw [Value.canonicalizeMembers]
      exact canonical_canonicalizeMembers rest _ (Entries.sorted_insert _ _ hs)
        (membersCanonical_insert (isCanonical_canonicalize value) hm)

end

/-- An object of free JSON: its members are sorted by key, each key once, at every level, and its
numbers are finite. -/
structure Object where
  members : List (String × Value)
  canonical : (Value.object members).isCanonical = true
  deriving DecidableEq

namespace Object

def empty : Object := ⟨[], by simp [Value.isCanonical, Value.membersCanonical, Entries.Sorted]⟩

instance : EmptyCollection Object := ⟨empty⟩

instance : Inhabited Object := ⟨empty⟩

def toValue (o : Object) : Value :=
  .object o.members

/-- The object with these members, made canonical. -/
def ofMembers (members : List (String × Value)) : Object where
  members := Value.canonicalizeMembers members []
  canonical := isCanonical_canonicalize (.object members)

/-- The members of an object value, made canonical; no members for any other value. -/
def ofValue : Value → Object
  | .object members => ofMembers members
  | _ => empty

def get? (o : Object) (key : String) : Option Value :=
  Entries.get? key o.members

def isEmpty (o : Object) : Bool :=
  o.members.isEmpty

def insert (o : Object) (key : String) (value : Value) : Object where
  members := Entries.insert key value.canonicalize o.members
  canonical := by
    have h := o.canonical
    simp only [Value.isCanonical, Bool.and_eq_true, decide_eq_true_eq] at h ⊢
    exact ⟨Entries.sorted_insert _ _ h.1,
      membersCanonical_insert (isCanonical_canonicalize value) h.2⟩

/-- The members of `other` put over those of the object. -/
def merge (o other : Object) : Object :=
  other.members.foldl (fun acc m => acc.insert m.1 m.2) o

end Object

end AgentSessions.Json
