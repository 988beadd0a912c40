import AgentSessions.Orchestration.Client
import AgentSessions.Proofs.Orchestration.Leases

/-!
# Offices move as floors do

An office keeps its desk in a world that it shares with its threads, and notes the drains that have
yet to be started. Such a world shows as a floor (`World.Shows`), and what the office does to it
when a prompt comes in, when an activity goes on or is cut short, when a history is to be wiped and
when a run is cancelled is a step on the floor. So what holds of every floor that is reached by
steps holds of the desk of an office, whatever its threads are at.
-/

set_option autoImplicit false

namespace AgentSessions

namespace Office

/-! ## Lists in any order -/

/-- An element of one list in the other one, and the elements around it. -/
theorem perm_split {α : Type} {all before after rest : List α} {u : α}
    (h : all.Perm (before ++ u :: after ++ rest)) :
    ∃ before' after', all = before' ++ u :: after' ∧
      (before' ++ after').Perm (before ++ after ++ rest) := by
  have hmem : u ∈ all := by
    refine h.mem_iff.mpr ?_
    simp
  obtain ⟨before', after', rfl⟩ := List.append_of_mem hmem
  refine ⟨before', after', rfl, ?_⟩
  rw [List.append_assoc, List.cons_append] at h
  -- `u` cancels on both sides
  have hothers := (List.perm_middle.symm.trans h).trans List.perm_middle
  rw [List.append_assoc]
  exact hothers.cons_inv

open scoped List in
theorem perm_insert {α : Type} {before after before' after' rest : List α}
    (h : before' ++ after' ~ before ++ after ++ rest) (new : List α) :
    before' ++ new ++ after' ~ before ++ new ++ after ++ rest :=
  calc before' ++ new ++ after'
    _ ~ new ++ before' ++ after' := List.perm_append_comm.append_right _
    _ = new ++ (before' ++ after') := List.append_assoc _ _ _
    _ ~ new ++ (before ++ after ++ rest) := h.append_left _
    _ = new ++ before ++ (after ++ rest) := by simp only [List.append_assoc]
    _ ~ before ++ new ++ (after ++ rest) := List.perm_append_comm.append_right _
    _ = before ++ new ++ after ++ rest := by simp only [List.append_assoc]

theorem perm_append_new {α : Type} {front underway rest : List α}
    (h : front.Perm (underway ++ rest)) (new : List α) :
    (front ++ new).Perm (underway ++ new ++ rest) := by
  have hfront : (front ++ []).Perm (underway ++ [] ++ rest) := by
    rw [List.append_nil, List.append_nil]
    exact h
  have hnew := perm_insert hfront new
  rwa [List.append_nil, List.append_nil] at hnew

end Office

variable {η : Type} {setup : Engine.Setup} {isChild : SessionId → Prop} {w : World η}
  {underway : List Underway} {f : Floor}

namespace World

/-! ## Worlds as floors -/

/-- The drains that have yet to be started. -/
def starting (w : World η) : List Underway :=
  w.starts.filterMap fun start =>
    match start with
    | .drain id => some ⟨.drain id, .turn⟩
    | .body _ => none

/-- The world shows as a floor when its threads are at `underway`. -/
structure Shows (w : World η) (underway : List Underway) (f : Floor) : Prop where
  desk : f.desk = w.desk
  /-- Drains are noted as soon as they are wanted. -/
  drains : w.desk.drains = []
  nextToken : f.nextToken = w.nextToken
  tripped : ∀ token, token ∈ f.tripped ↔ token ∈ w.tripped
  underway : f.underway.Perm (underway ++ w.starting)

theorem starting_putDesk (w : World η) (d : Desk) :
    (w.putDesk d).starting = w.starting ++ d.drains.map fun id => ⟨.drain id, .turn⟩ := by
  unfold starting
  show (w.starts ++ d.drains.map Start.drain).filterMap _ = _
  rw [List.filterMap_append, List.filterMap_map]
  congr 1
  show d.drains.filterMap (fun id => some (⟨.drain id, .turn⟩ : Underway)) = _
  rw [List.filterMap_eq_map']

theorem shows_new (host : η) (maxBacklog : Option Nat) (board : Board)
    (store : SessionId → Option Snapshot) :
    (World.new host (.empty maxBacklog) board).Shows [] (.opening maxBacklog store) :=
  ⟨rfl, rfl, rfl, fun _ => Iff.rfl, .refl _⟩

/-- A step at the desk of a world, and the same step on its floor. -/
theorem Shows.settle (h : w.Shows underway f) (d : Desk) {front next : List Underway}
    (hfront : front.Perm (next ++ w.starting)) :
    (w.putDesk d).Shows next (Floor.settle { f with desk := d, underway := front }) where
  desk := rfl
  drains := rfl
  nextToken := h.nextToken
  tripped := h.tripped
  underway := by
    rw [starting_putDesk, ← List.append_assoc]
    exact hfront.append_right _

theorem Shows.freshToken (h : w.Shows underway f) :
    w.freshToken.2.Shows underway { f with nextToken := f.nextToken + 1 } where
  desk := h.desk
  drains := h.drains
  nextToken := congrArg (· + 1) h.nextToken
  tripped := h.tripped
  underway := h.underway

theorem Shows.publish (h : w.Shows underway f) (session : SessionId) (body : EventBody)
    (now : Nat) : (w.publish session body now).Shows underway f :=
  ⟨h.desk, h.drains, h.nextToken, h.tripped, h.underway⟩

/-- A token that is tripped is among those that are, and no other one is new. -/
theorem mem_tripped_trip (w : World η) (token t : Token) :
    t ∈ (w.trip token).tripped ↔ t = token ∨ t ∈ w.tripped := by
  unfold trip
  by_cases hbefore : w.isTripped token = true
  · have hmem : token ∈ w.tripped := List.contains_iff_mem.mp hbefore
    rw [if_pos hbefore]
    constructor
    · exact .inr
    · rintro (rfl | ht)
      · exact hmem
      · exact ht
  · rw [if_neg hbefore]
    exact List.mem_cons

theorem trip_eq (w : World η) (token : Token) :
    w.trip token = { w with tripped := (w.trip token).tripped } := by
  unfold trip
  split <;> rfl

theorem Shows.trip (h : w.Shows underway f) (token : Token) :
    (w.trip token).Shows underway { f with tripped := token :: f.tripped } := by
  have htripped := w.mem_tripped_trip token
  rw [trip_eq]
  refine ⟨h.desk, h.drains, h.nextToken, fun t => ?_, h.underway⟩
  rw [htripped, List.mem_cons, h.tripped]

/-- What a thread is at is under way on the floor. -/
theorem Shows.split {u : Underway} {before after : List Underway}
    (h : w.Shows (before ++ u :: after) f) :
    ∃ before' after', f.underway = before' ++ u :: after' ∧
      (before' ++ after').Perm (before ++ after ++ w.starting) :=
  Office.perm_split h.underway

end World

namespace Office

/-! ## Steps -/

/-- What is started for a prompt that runs at once: its session is to be loaded. -/
def Received.starts : Received → List Underway
  | .runs a => [⟨a, .load⟩]
  | .replied _ => []

/-- A prompt comes in. -/
theorem shows_receive (h : w.Shows underway f) (p : Incoming) (now : Nat) :
    ∃ entries f', Floor.Step setup isChild f entries f' ∧
      (receive p now w).2.Shows (underway ++ (receive p now w).1.starts) f' := by
  -- an identifier is minted, of which nothing shows on the floor
  have hminted : (w.mint MessageId.fresh now).2.Shows underway f :=
    ⟨h.desk, h.drains, h.nextToken, h.tripped, h.underway⟩
  have hnew := perm_append_new h.underway
  generalize hm : (⟨(w.mint MessageId.fresh now).1, p.session, p.prompt, p.priority, .empty,
    World.instantAt now⟩ : QueuedMessage) = m
  have hreceives := w.desk.receives m p.queueIfBusy
  refine ⟨_, _, .receives f m p.queueIfBusy, ?_⟩
  have hdesk : (w.mint MessageId.fresh now).2.desk = w.desk := rfl
  unfold receive Floor.receive
  simp only [h.desk, hdesk, hm]
  generalize w.desk.receive m p.queueIfBusy = result at hreceives
  cases hreceives with
  | granted hidle =>
      subst hm
      exact hminted.settle _ (hnew _)
  | busy hbusy => exact hminted.settle _ (hnew _)
  | full e hbusy => exact hminted.settle _ (hnew _)
  | queued count hbusy => exact (hminted.settle _ (hnew _)).publish _ _ _

/-- An activity gets what it waited for. -/
theorem shows_advance {u : Underway} {before after : List Underway} {answer : Answer}
    (h : w.Shows (before ++ u :: after) f) (hanswer : u.pending.answer? = some answer) :
    ∃ entries f', Floor.Step setup isChild f entries f' ∧
      (advance u.activity answer w).2.Shows
        (before ++ (advance u.activity answer w).1.underway setup ⟨w.nextToken⟩ ++ after) f' := by
  obtain ⟨before', after', hsplit, hothers⟩ := h.split
  refine ⟨_, _, .advances hsplit hanswer, ?_⟩
  rw [Floor.advance, h.nextToken, h.desk]
  have hsettled := h.freshToken.settle
    (u.activity.advance ⟨w.nextToken⟩ answer w.desk).2 (perm_insert hothers
      ((advance u.activity answer w).1.underway setup ⟨w.nextToken⟩))
  rw [h.nextToken] at hsettled
  exact hsettled

/-- An activity that is cut short leaves the desk as it does on the floor. -/
theorem shows_cut {u : Underway} {before after : List Underway}
    (h : w.Shows (before ++ u :: after) f) :
    ∃ before' after', f.underway = before' ++ u :: after' ∧
      (abandon u.activity w).Shows (before ++ after)
        (f.abandon u.activity (before', after')) := by
  obtain ⟨before', after', hsplit, hothers⟩ := h.split
  refine ⟨before', after', hsplit, ?_⟩
  rw [Floor.abandon, h.desk]
  exact h.settle _ hothers

/-- An activity is abandoned. -/
theorem shows_abandon {u : Underway} {before after : List Underway}
    (h : w.Shows (before ++ u :: after) f) (hworker : u.activity.worker ≠ .drain) :
    ∃ f', Floor.Step setup isChild f [] f' ∧
      (abandon u.activity w).Shows (before ++ after) f' := by
  obtain ⟨before', after', hsplit, hshows⟩ := shows_cut h
  exact ⟨_, .abandons hsplit hworker, hshows⟩

/-- The lease of a session is taken to wipe its history. -/
theorem shows_wipe (h : w.Shows underway f) {id : SessionId} {d : Desk}
    (hlease : w.desk.lease? id = some d) :
    ∃ f', Floor.Step setup isChild f [] f' ∧
      (w.putDesk d).Shows (underway ++ [⟨.wiper id, .load⟩]) f' := by
  refine ⟨_, .wipes f id, ?_⟩
  rw [Floor.wipe, h.desk, hlease]
  have hdrains : d.drains = [] := by
    rw [Desk.lease?_eq] at hlease
    split at hlease
    · cases hlease
    · cases hlease
      exact h.drains
  have hsettled := h.settle d (perm_append_new h.underway [⟨.wiper id, .load⟩])
  unfold Floor.settle at hsettled
  dsimp only at hsettled
  rw [hdrains, List.map_nil, List.append_nil] at hsettled
  refine ⟨?_, hsettled.drains, hsettled.nextToken, hsettled.tripped, hsettled.underway⟩
  exact congrArg (Desk.mk d.queue d.active) hdrains

/-- What waits for a session is dropped. -/
theorem shows_clearBacklog (h : w.Shows underway f) (id : SessionId) :
    ∃ entries f', Floor.Step setup isChild f entries f' ∧
      ({ w with desk := w.desk.clearBacklog id } : World η).Shows underway f' := by
  refine ⟨_, _, .clears f id, ?_⟩
  rw [Floor.clearBacklog, h.desk]
  exact ⟨rfl, h.drains, h.nextToken, h.tripped, h.underway⟩

/-- A run is cancelled. -/
theorem shows_cancel (h : w.Shows underway f) (id : SessionId) :
    ∃ f', Floor.Step setup isChild f [] f' ∧ (cancel id w).2.Shows underway f' := by
  refine ⟨_, .cancels f id, ?_⟩
  have hrunning : f.desk.running? id = w.desk.running? id := by
    rw [h.desk]
  rw [Floor.cancel, hrunning]
  unfold cancel
  cases w.desk.running? id with
  | none => exact h
  | some token => exact h.trip token

/-- The drains that were noted are started as threads. -/
theorem shows_started (h : w.Shows underway f) :
    (started w).2.Shows (underway ++ w.starting) f where
  desk := h.desk
  drains := h.drains
  nextToken := h.nextToken
  tripped := h.tripped
  underway := by
    show f.underway.Perm (underway ++ w.starting ++ [])
    rw [List.append_nil]
    exact h.underway

/-- At the desk of an office nothing waits for an idle session. -/
theorem waiting_of_shows {log : List Entry} {maxBacklog : Option Nat}
    {store : SessionId → Option Snapshot} (h : w.Shows underway f)
    (hruns : Floor.Runs setup isChild (.opening maxBacklog store) log f) {id : SessionId}
    (hidle : w.desk.queue.isBusy id = false) : w.desk.queue.waiting id = [] := by
  rw [← h.desk] at hidle ⊢
  exact hruns.orderly.waiting id hidle

end Office

end AgentSessions
