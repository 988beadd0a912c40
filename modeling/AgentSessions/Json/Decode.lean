import AgentSessions.Json.Reader

/-!
# Decoding typed values

A `Decoder α` turns a node into a value of `α` or the cause of failure. Records are described by a
`Record`: the fields in their order of declaration, each with its decoder and with what its absence
means. A record is read from an object, whose unknown members are skipped, or from an array of its
fields in that order.
-/

set_option autoImplicit false

namespace AgentSessions.Json

/-- Decodes a node with so many levels of nesting left. -/
abbrev Decoder (α : Type) := Option Nat → Node → Except Cause α

namespace Decoder

variable {α β : Type}

/-- Decodes a value; whatever is wrong with it, its shape is. -/
def value? (d : Decoder α) (v : Value) : Except Cause α :=
  match d none (.ofValue v) with
  | .ok a => .ok a
  | .error _ => .error .data

/-- Decodes a text. -/
def text? (d : Decoder α) (text : String) : Except Cause α :=
  let doc := Document.ofText text
  match d (some maxLevels) doc.root with
  | .ok a => if doc.trailing then .error .malformed else .ok a
  | .error cause => .error cause

def map (f : α → β) (d : Decoder α) : Decoder β :=
  fun levels node => (d levels node).map f

/-! ## Simple types -/

def any : Decoder Value :=
  Node.toValue

def bool : Decoder Bool := fun _ node =>
  match node with
  | .bool b => .ok b
  | other => .error other.mismatch

def string : Decoder String := fun _ node =>
  match node with
  | .string s => .ok s
  | other => .error other.mismatch

/-- A whole number from `low` to `high`. -/
def whole (low high : Int) : Decoder Int := fun _ node =>
  match node with
  | .int i => if low ≤ i ∧ i ≤ high then .ok i else .error .data
  | other => .error other.mismatch

def uint32 : Decoder UInt32 :=
  map (fun i => UInt32.ofNat i.toNat) (whole 0 4294967295)

def uint64 : Decoder UInt64 :=
  map (fun i => UInt64.ofNat i.toNat) (whole 0 18446744073709551615)

def int32 : Decoder Int32 :=
  map Int32.ofInt (whole (-2147483648) 2147483647)

/-- A floating point number; whole numbers are rounded to one. -/
def float : Decoder Binary64 := fun _ node =>
  match node with
  | .float x => .ok x
  | .int i => .ok (.ofInt i)
  | other => .error other.mismatch

/-! ## Containers -/

/-- A value that may be `null`. -/
def nullable (d : Decoder α) : Decoder (Option α) := fun levels node =>
  match node with
  | .null => .ok none
  | other => (d levels other).map some

/-- The items of a list, decoded in turn. -/
def items (d : Decoder α) (levels : Option Nat) : List Node → Except Cause (List α)
  | [] => .ok []
  | node :: rest => do
      let a ← d levels node
      let as ← items d levels rest
      .ok (a :: as)

def list (d : Decoder α) : Decoder (List α) := fun levels node =>
  match node with
  | .array nodes close => do
      let inner ← Node.enter levels
      let as ← items d inner nodes
      Node.Close.pass close
      .ok as
  | other => .error other.mismatch

/-- The members of a dictionary, added in turn to `acc`. -/
def entries (d : Decoder α) (levels : Option Nat) :
    List (Key × Node) → Dict α → Except Cause (Dict α)
  | [], acc => .ok acc
  | (key, node) :: rest, acc => do
      let name ← key.read
      let a ← d levels node
      entries d levels rest (acc.insert name a)

/-- A dictionary; of members with one key the last counts. -/
def dict (d : Decoder α) : Decoder (Dict α) := fun levels node =>
  match node with
  | .object members close => do
      let inner ← Node.enter levels
      let found ← entries d inner members .empty
      Node.Close.pass close
      .ok found
  | other => .error other.mismatch

def object : Decoder Object := fun levels node =>
  match node with
  | .object members close => do
      let inner ← Node.enter levels
      let found ← Node.toMembers inner members []
      Node.Close.pass close
      .ok (Object.ofMembers found)
  | other => .error other.mismatch

/-! ## Variants -/

/-- The variant with this name. -/
def variant (names : List (String × α)) (name : String) : Except Cause α :=
  match Entries.get? name names with
  | some a => .ok a
  | none => .error .data

/-- What may stand beside the name of a variant without fields. -/
abbrev Blank := Node → Except Cause Unit

/-- Nothing but `null`. -/
def Blank.null : Blank
  | .null => .ok ()
  | other => .error other.mismatch

/-- Either `null` or an object without members. -/
def Blank.nullOrEmpty : Blank
  | .object [] .closed => .ok ()
  | other => Blank.null other

/-- One of several variants without fields: its name, or an object whose one member has that name
and a value that passes `blank`. -/
def oneOfWith (blank : Blank) (names : List (String × α)) : Decoder α := fun levels node =>
  match node with
  | .string s => variant names s
  | .object members close => do
      let _ ← Node.enter levels
      match members with
      | [] =>
          match close with
          | .closed => .error .malformed
          | .cut why _ => .error why.variant
      | (key, node) :: rest =>
          let a ← variant names (← key.read)
          blank node
          match rest, close with
          | [], .closed => .ok a
          | [], .cut why false => .error why.read
          | _, _ => .error .malformed
  | .broken why => .error why.variant
  | _ => .error .malformed

/-- One of several variants without fields: its name, or an object whose one member has that name
and the value `null`. -/
def oneOf (names : List (String × α)) : Decoder α :=
  oneOfWith Blank.null names

end Decoder

/-! ## Records -/

/-- How a record is laid out: by name in an object, or in order in an array. -/
inductive Layout where
  | named
  | positional
  deriving DecidableEq

/-- The description of a record: the fields with what is checked of each, and how the record is
built from the nodes of those that are present. -/
structure Record (α : Type) where
  fields : List (String × Decoder Unit)
  build : Option Nat → Layout → (String → Option Node) → Except Cause α

namespace Record

variable {α β : Type}

instance : Functor Record where
  map f r := ⟨r.fields, fun levels layout find => (r.build levels layout find).map f⟩

def done (a : α) : Record α :=
  ⟨[], fun _ _ _ => .ok a⟩

/-- A record of the fields of both. -/
def both (f : Record (α → β)) (r : Record α) : Record β where
  fields := f.fields ++ r.fields
  build levels layout find := do
    let g ← f.build levels layout find
    let a ← r.build levels layout find
    .ok (g a)

instance : Applicative Record where
  pure := done
  seq f r := both f (r ())

/-- A field whose absence gives `absent`. -/
def fieldOr (name : String) (d : Decoder α) (absent : Layout → Except Cause α) : Record α where
  fields := [(name, Decoder.map (fun _ => ()) d)]
  build levels layout find :=
    match find name with
    | some node => d levels node
    | none => absent layout

/-- A field that must be there. -/
def field (name : String) (d : Decoder α) : Record α :=
  fieldOr name d fun _ => .error .data

/-- A field that may be absent or `null`; in an array it has to have its place. -/
def optional (name : String) (d : Decoder α) : Record (Option α) :=
  fieldOr name (Decoder.nullable d) fun layout =>
    match layout with
    | .named => .ok none
    | .positional => .error .data

/-- A field with a default. -/
def withDefault (name : String) (d : Decoder α) (default : α) : Record α :=
  fieldOr name d fun _ => .ok default

/-- Checks the members in turn: those of the record with their decoders, each at most once, and
skips the others. -/
def checkMembers (fields : List (String × Decoder Unit)) (levels : Option Nat) (close : Close) :
    List (Key × Node) → List String → Except Cause Unit
  | [], _ => Node.Close.pass close
  | (key, node) :: rest, seen => do
      let name ← key.read
      match Entries.get? name fields with
      | some check =>
          if name ∈ seen then .error .data
          else do
            check levels node
            checkMembers fields levels close rest (name :: seen)
      | none => do
          node.skip
          checkMembers fields levels close rest seen

/-- Checks the items of an array as the fields in order. An item too many is malformed. -/
def checkItems (levels : Option Nat) (close : Close) :
    List (String × Decoder Unit) → List Node → Except Cause Unit
  | [], [] =>
      match close with
      | .cut _ true => .error .malformed
      | other => Node.Close.pass other
  | [], _ :: _ => .error .malformed
  | _ :: _, [] => Node.Close.pass close
  | (_, check) :: fields, node :: rest => do
      check levels node
      checkItems levels close fields rest

def decoder (r : Record α) : Decoder α := fun levels node =>
  match node with
  | .object members close => do
      let inner ← Node.enter levels
      checkMembers r.fields inner close members []
      r.build inner .named fun name => Node.member? name members
  | .array nodes close => do
      let inner ← Node.enter levels
      checkItems inner close r.fields nodes
      r.build inner .positional fun name =>
        Entries.get? name ((r.fields.map (·.1)).zip nodes)
  | other => .error other.mismatch

end Record

end AgentSessions.Json
