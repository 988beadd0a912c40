import AgentSessions.Rehearsal.Cast
import AgentSessions.Simulation.Pool

/-!
# Rehearsing a single engine

A bench holds an engine with its session and its token, in a world that goes on from one operation
to the next. What is not over when an operation ends, such as a late cancellation, stays in the
background.
-/

set_option autoImplicit false

namespace AgentSessions.Rehearsal

open Simulation (Pool Proc Program)

/-- A scene on which one process acts in the foreground, with small things in the background. -/
abbrev Scene := Pool (World Cast) Unit Unit

namespace Scene

/-- The bound on the number of polls in one act. -/
def patience : Nat := 1000000

/-- A scene with nobody on it but the cast. -/
def ofCast (cast : Cast) : Scene :=
  .ofWorld (.new cast (.empty none) (.empty 1 0 []))

/-- Plays a part in the foreground; `none` when it does not come to an end. -/
def play {α : Type} (scene : Scene) (part : Part α) : Option α × Scene :=
  match Pool.run (Program.idle (World Cast)) patience part scene with
  | (some (.returned a), scene) => (some a, scene)
  | (_, scene) => (none, scene)

def freshToken (scene : Scene) : Token × Scene :=
  let (token, world) := scene.world.freshToken
  (token, { scene with world := world })

def trip (scene : Scene) (token : Token) : Scene :=
  { scene with world := scene.world.trip token }

/-- Trips a token in the background when so many milliseconds have passed. -/
def tripLater (scene : Scene) (token : Token) : Option Nat → Scene
  | none => scene
  | some delayMs => scene.spawn () do
      Proc.delay delayMs
      Act.trip token

end Scene

/-- An engine on its scene. -/
structure Bench where
  collaborators : Collaborators Cast
  settings : EngineSettings
  systemPrompt : Option String
  depth : UInt32
  session : Session
  token : Token
  scene : Scene

namespace Bench

/-- The session of an identifier as it is stored. -/
def stored (c : Collaborators Cast) (id : SessionId) : Part (Except StoreError Session) := do
  let loaded ← c.load id
  pure (loaded.map fun
    | some snapshot => .ofSnapshot id snapshot
    | none => .empty id)

/-- The engine with a token that nobody has, which is the one that its model trips. -/
def renewToken (b : Bench) : Bench :=
  let (token, scene) := b.scene.freshToken
  let cast := { scene.world.host with token := some token }
  { b with token := token, scene := { scene with world := { scene.world with host := cast } } }

/-- The engine made anew with its session as it is stored, and with a new token; when the session
cannot be loaded, the engine stays as it is. -/
def load (b : Bench) : Except StoreError Unit × Bench :=
  match b.scene.play (stored b.collaborators b.session.id) with
  | (some (.ok session), scene) =>
      (.ok (), { b with session := session, scene := scene }.renewToken)
  | (some (.error e), scene) => (.error e, { b with scene := scene })
  | (none, scene) => (.ok (), { b with scene := scene })

/-- Serves the engine while it works on its session; `none` when that does not come to an end. -/
def serve {α : Type} (b : Bench) (work : Engine.Setup → Session → Dialogue (Session × α)) :
    Option α × Bench :=
  let setup := b.collaborators.setup b.settings b.systemPrompt b.depth
  let part := b.collaborators.serve ⟨b.session.id, b.depth, b.token⟩ (work setup b.session)
  match b.scene.play part with
  | (some (session, a), scene) => (some a, { b with session := session, scene := scene })
  | (none, scene) => (none, { b with scene := scene })

def run (b : Bench) (prompt : String) (cancelAfterMs : Option Nat) :
    Option (Except RunError RunSummary) × Bench :=
  { b with scene := b.scene.tripLater b.token cancelAfterMs }.serve fun setup session =>
    Engine.run setup session prompt

def clear (b : Bench) : Option (Except RunError Unit) × Bench :=
  b.serve fun _ session => Engine.clear session

def cancel (b : Bench) : Bench :=
  { b with scene := b.scene.trip b.token }

end Bench

end AgentSessions.Rehearsal
