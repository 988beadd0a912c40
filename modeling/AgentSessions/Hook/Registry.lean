import AgentSessions.Hook.Request

/-!
# The registry of hook handlers

A handler has a name, a priority, perhaps a timeout of its own, and the tools it is interested in.
The handlers for calls and those for results are kept in two lists, each in the order in which they
run: higher priorities first, equal ones in the order of registration. A name stands for one handler
in each list; to register it again replaces the handler and puts it last among its equals.
-/

set_option autoImplicit false

namespace AgentSessions

open Json (Decoder Record Value)

/-- When a handler runs. -/
inductive HookPoint where
  | preToolUse
  | postToolUse
  deriving DecidableEq, Repr

namespace HookPoint

def name : HookPoint → String
  | preToolUse => "preToolUse"
  | postToolUse => "postToolUse"

def names : List (String × HookPoint) :=
  [preToolUse, postToolUse].map fun p => (p.name, p)

def encode (p : HookPoint) : Value := .string p.name

def decoder : Decoder HookPoint := Decoder.oneOf names

end HookPoint

structure HookInfo where
  name : String
  point : HookPoint
  priority : Int32
  timeoutMs : Option UInt64
  deriving DecidableEq

namespace HookInfo

def encode (i : HookInfo) : Value :=
  Value.record
    [Value.field "name" (.string i.name), Value.field "point" i.point.encode,
      Value.field "priority" (.int i.priority.toInt),
      Value.optional "timeoutMs" (fun n : UInt64 => .nat n.toNat) i.timeoutMs]

def decoder : Decoder HookInfo := Record.decoder <|
  mk <$> Record.field "name" Decoder.string
    <*> Record.field "point" HookPoint.decoder
    <*> Record.field "priority" Decoder.int32
    <*> Record.optional "timeoutMs" Decoder.uint64

end HookInfo

/-- A handler whose behaviour is a `β`. -/
structure Handler (β : Type) where
  name : String
  priority : Int32
  timeoutMs : Option UInt64
  /-- The tools it is interested in. -/
  accepts : String → Bool
  behaviour : β

namespace Handler

variable {β : Type}

def info (point : HookPoint) (h : Handler β) : HookInfo :=
  ⟨h.name, point, h.priority, h.timeoutMs⟩

/-- Whether `a` may run before `b`: it has at least the priority of `b`. -/
def notBehind (a b : Handler β) : Bool :=
  decide (b.priority ≤ a.priority)

/-- The handlers with `h` registered: handlers of its name go, and `h` takes its place behind those
of at least its priority. -/
def register (handlers : List (Handler β)) (h : Handler β) : List (Handler β) :=
  (handlers.filter (fun k => k.name ≠ h.name) ++ [h]).mergeSort notBehind

end Handler

/-- The registered handlers, those for calls with behaviour `β`, those for results with `γ`. -/
structure HookRegistry (β γ : Type) where
  pre : List (Handler β)
  post : List (Handler γ)

namespace HookRegistry

variable {β γ : Type}

def empty : HookRegistry β γ := ⟨[], []⟩

def registerPre (r : HookRegistry β γ) (h : Handler β) : HookRegistry β γ :=
  { r with pre := Handler.register r.pre h }

def registerPost (r : HookRegistry β γ) (h : Handler γ) : HookRegistry β γ :=
  { r with post := Handler.register r.post h }

def count (r : HookRegistry β γ) : Nat :=
  r.pre.length + r.post.length

def isEmpty (r : HookRegistry β γ) : Bool :=
  r.count == 0

/-- Removes the handlers of a name from both lists. -/
def unregister (r : HookRegistry β γ) (name : String) : HookRegistry β γ :=
  ⟨r.pre.filter fun h => h.name ≠ name, r.post.filter fun h => h.name ≠ name⟩

/-- Whether removing a name takes a handler away: fewer are left than there were. -/
def removes (r : HookRegistry β γ) (name : String) : Bool :=
  (r.unregister name).count < r.count

def contains (r : HookRegistry β γ) (name : String) : Bool :=
  r.pre.any (fun h => h.name == name) || r.post.any fun h => h.name == name

/-- The handlers for a call of a tool, in the order in which they run. -/
def preFor (r : HookRegistry β γ) (tool : String) : List (Handler β) :=
  r.pre.filter fun h => h.accepts tool

/-- The handlers for a result of a tool, in the order in which they run. -/
def postFor (r : HookRegistry β γ) (tool : String) : List (Handler γ) :=
  r.post.filter fun h => h.accepts tool

/-- All handlers sorted by name, those for calls before those for results. -/
def list (r : HookRegistry β γ) : List HookInfo :=
  (r.pre.map (Handler.info .preToolUse) ++ r.post.map (Handler.info .postToolUse)).mergeSort
    fun a b => decide (a.name ≤ b.name)

end HookRegistry

end AgentSessions
