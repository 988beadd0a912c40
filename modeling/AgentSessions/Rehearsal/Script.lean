import AgentSessions.Model
import AgentSessions.Run.Outcome
import AgentSessions.Store.Memory

/-!
# Scripted models and stores

For a rehearsal the collaborators of an engine act by a script. A scripted model gives the replies
that are written down for it, some of them for certain prompts only; a scripted store fails when the
script says so.
-/

set_option autoImplicit false

namespace AgentSessions.Rehearsal

structure Cue where
  answer : Except ModelError ModelResponse
  delayMs : Nat
  /-- Whether it never answers. -/
  hangs : Bool
  /-- Whether it trips the token of the engine that asks. -/
  trips : Bool

/-- The reply of a model that has nothing left to say. -/
def Cue.last : Cue := ⟨.ok (.text "done"), 0, false, false⟩

structure Script where
  cues : List Cue
  /-- Replies to certain prompts, which come before the others. -/
  byPrompt : Dict (List Cue)

namespace Script

def empty : Script := ⟨[], .empty⟩

/-- The next reply to a prompt, and what is left of the script. -/
def next (s : Script) (prompt : Option String) : Cue × Script :=
  match prompt.bind fun p => (s.byPrompt.get? p).map fun cues => (p, cues) with
  | some (_, []) => (.last, s)
  | some (p, cue :: rest) => (cue, { s with byPrompt := s.byPrompt.insert p rest })
  | none =>
      match s.cues with
      | [] => (.last, s)
      | cue :: rest => (cue, { s with cues := rest })

end Script

/-- The prompt that a model is asked: the last turn of the user. -/
def promptOf (request : ModelRequest) : Option String :=
  (request.turns.reverse.find? fun t => t.role == .user).map Turn.content

structure Storage where
  memory : MemoryStore
  loads : Nat
  saves : Nat
  /-- The loads that fail, counted from one. -/
  failLoads : List Nat
  /-- The saves that fail, counted from one. -/
  failSaves : List Nat
  error : StoreError

namespace Storage

/-- A store that never fails. -/
def ofMemory (memory : MemoryStore) : Storage := ⟨memory, 0, 0, [], [], .backend "down"⟩

def load (s : Storage) (id : SessionId) : Except StoreError (Option Snapshot) × Storage :=
  let count := s.loads + 1
  (if s.failLoads.contains count then .error s.error else .ok (s.memory.load id),
    { s with loads := count })

/-- Saves a session; a save that fails leaves the store as it is. -/
def save (s : Storage) (id : SessionId) (snapshot : Snapshot) :
    Except StoreError Unit × Storage :=
  let count := s.saves + 1
  if s.failSaves.contains count then (.error s.error, { s with saves := count })
  else (.ok (), { s with saves := count, memory := s.memory.save id snapshot })

end Storage

end AgentSessions.Rehearsal
