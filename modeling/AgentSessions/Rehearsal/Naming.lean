import AgentSessions.Json.Lookup
import AgentSessions.Task.Board

/-!
# Names for identifiers

The identifiers that are handed out in a rehearsal depend on the time and on a counter. Whoever
writes a rehearsal down calls them by number instead: `task#2` is the task that was created second.
`resolve` takes such names to identifiers; `veil` takes the identifiers in an answer to names, where
those of a kind that occur are numbered in the order of their creation, and takes times in texts to
`<ts>`.
-/

set_option autoImplicit false

namespace AgentSessions.Rehearsal.Naming

open Json (Value)

/-! ## From names to identifiers -/

/-- The task that a name stands for. -/
def named? (b : Board) (name : String) : Option TaskId :=
  if name.startsWith "task#" then
    match (name.drop 5).toNat? with
    | some (n + 1) => (b.entries[n]?).map TaskEntry.id
    | _ => none
  else none

/-- The text with a name replaced by the identifier for which it stands. -/
def resolveText (b : Board) (s : String) : String :=
  match named? b s with
  | some id => id.text
  | none => s

def resolve (b : Board) (v : Value) : Value :=
  v.mapTexts (resolveText b)

/-! ## Recognizing identifiers and times -/

/-- The kinds of identifiers that have names. -/
def kinds : List String := ["task", "sess", "msg"]

def isHex (c : Char) : Bool :=
  c.isDigit || ('a' ≤ c && c ≤ 'f')

/-- How a text has to begin: `x` stands for a digit of an identifier, `0` for a decimal digit. -/
def fits : (shape text : List Char) → Bool
  | [], _ => true
  | _, [] => false
  | p :: ps, c :: cs =>
      (if p == 'x' then isHex c else if p == '0' then c.isDigit else p == c) && fits ps cs

def uuidShape : List Char := "xxxxxxxx-xxxx-xxxx-xxxx-xxxxxxxxxxxx".toList

def timeShape : List Char := "0000-00-00T00:00:00".toList

/-- The shapes of the identifiers that have names: a kind, an underscore and a UUID. -/
def identifierShapes : List (List Char) :=
  kinds.map fun kind => kind.toList ++ '_' :: uuidShape

/-- The length of the identifier with which a text begins. -/
def identifier? (cs : List Char) : Option Nat :=
  (identifierShapes.find? fun shape => fits shape cs).map List.length

/-- The length of the fraction of a second with which a text begins. -/
def fractionLength : List Char → Nat
  | '.' :: cs => ((cs.takeWhile Char.isDigit).length + 1)
  | _ => 0

/-- The length of the time with which a text begins. -/
def time? (cs : List Char) : Option Nat :=
  if fits timeShape cs then
    let rest := cs.drop timeShape.length
    let fraction := fractionLength rest
    if (rest.drop fraction).head? == some 'Z' then some (timeShape.length + fraction + 1) else none
  else none

/-! ## From identifiers to names -/

def identifiersIn : List Char → List String
  | [] => []
  | c :: cs =>
      match identifier? (c :: cs) with
      | some n => String.ofList ((c :: cs).take n) :: identifiersIn cs
      | none => identifiersIn cs

/-- The names of identifiers: those of a kind are numbered in their order. -/
def names (ids : Dict Unit) : Dict String :=
  .ofList <| kinds.flatMap fun kind =>
    (ids.keys.filter fun id => id.startsWith kind).zipIdx.map fun (id, i) =>
      (id, kind ++ "#" ++ toString (i + 1))

/-- A text with names for identifiers, and without its times. The first `skip` characters are passed
over. -/
def veilText (d : Dict String) : (skip : Nat) → List Char → List Char
  | _, [] => []
  | skip + 1, _ :: cs => veilText d skip cs
  | 0, c :: cs =>
      match identifier? (c :: cs) with
      | some n =>
          let id := String.ofList ((c :: cs).take n)
          ((d.get? id).getD id).toList ++ veilText d (n - 1) cs
      | none =>
          match time? (c :: cs) with
          | some n => "<ts>".toList ++ veilText d (n - 1) cs
          | none => c :: veilText d 0 cs

def veil (v : Value) : Value :=
  let ids := v.allTexts.flatMap fun s => identifiersIn s.toList
  let d := names (.ofList (ids.map fun id => (id, ())))
  v.mapTexts fun s => String.ofList (veilText d 0 s.toList)

/-- An identifier with its digits hidden, but for the version of its UUID. -/
def shape (id : String) : String :=
  let kind := id.toList.takeWhile fun c => c != '_'
  let uuid := id.toList.drop (kind.length + 1)
  String.ofList <|
    kind ++ '_' :: uuid.zipIdx.map fun (c, i) => if i != 14 && isHex c then 'x' else c

end AgentSessions.Rehearsal.Naming
