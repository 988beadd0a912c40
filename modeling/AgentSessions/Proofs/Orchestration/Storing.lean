import AgentSessions.Proofs.Dict
import AgentSessions.Proofs.Orchestration.Operations
import AgentSessions.Store.Memory

/-!
# What a store in memory keeps

The floor speaks of a store by what it finds under every session. A store in memory finds that: when
it keeps all that is seen to be saved, in this order (`MemoryStore.after`), it finds under every
session what the floor does, after every operation and so after every execution
(`Floor.store_play`).
-/

set_option autoImplicit false

namespace AgentSessions

/-! ## Saves -/

/-- What is saved, and for which session. -/
def Sight.save? : Sight → Option (SessionId × Snapshot)
  | .noted (.saved _ id snapshot) => some (id, snapshot)
  | _ => none

namespace MemoryStore

theorem load_save (memory : MemoryStore) (id id' : SessionId) (snapshot : Snapshot) :
    (memory.save id snapshot).load id' = if id' = id then some snapshot else memory.load id' := by
  rw [load, save, Dict.get?_insert]
  exact if_congr SessionId.text_inj rfl rfl

/-- The store after all that was seen to be saved. -/
def after (memory : MemoryStore) (sights : List Sight) : MemoryStore :=
  (sights.filterMap Sight.save?).foldl (fun memory saved => memory.save saved.1 saved.2) memory

theorem after_append (memory : MemoryStore) (sights sights' : List Sight) :
    memory.after (sights ++ sights') = (memory.after sights).after sights' := by
  rw [after, List.filterMap_append, List.foldl_append]
  rfl

theorem after_same (memory : MemoryStore) {sights : List Sight}
    (h : ∀ sight ∈ sights, sight.save? = none) : memory.after sights = memory := by
  rw [after, List.filterMap_eq_nil_iff.mpr h]
  rfl

end MemoryStore

/-! ## On the floor -/

namespace Floor

variable {setup : Engine.Setup} {f : Floor} {memory : MemoryStore}

theorem store_advanceSeen (h : f.store = memory.load) (a : Activity) (answer : Answer)
    (others : List Underway × List Underway) :
    (f.advanceSeen setup a answer others).2.store =
      (memory.after (f.advanceSeen setup a answer others).1).load := by
  have hnone : ∀ (course : Course) (token : Token) (d : Desk),
      ∀ sight ∈ (course.entries token d).map Sight.noted ++ course.sights, sight.save? = none := by
    intro course token d sight hsight
    rcases List.mem_append.mp hsight with hsight | hsight
    · obtain ⟨e, he, rfl⟩ := List.mem_map.mp hsight
      cases course with
      | ended report => cases he
      | goesOn next job =>
          cases job with
          | load id =>
              obtain ⟨m, -, rfl⟩ := List.mem_map.mp he
              rfl
          | run | wipe =>
              rw [List.mem_singleton.mp he]
              rfl
    · cases course with
      | ended report =>
          rw [List.mem_singleton.mp hsight]
          rfl
      | goesOn next job => cases hsight
  have hsame := memory.after_same
    (hnone (a.advance ⟨f.nextToken⟩ answer f.desk).1 ⟨f.nextToken⟩ f.desk)
  exact h.trans (congrArg MemoryStore.load hsame.symm)

theorem store_goOn (h : f.store = memory.load) (o : Oracle) (now : Instant) (u : Underway)
    (others : List Underway × List Underway) :
    (goOn setup o now f u others).2.store =
      (memory.after (goOn setup o now f u others).1).load := by
  obtain ⟨a, pending⟩ := u
  cases pending with
  | turn => exact store_advanceSeen h a .ready others
  | load => exact h
  | found result => exact store_advanceSeen h a (.loaded result) others
  | engine token rest =>
      cases rest with
      | done answer => exact store_advanceSeen h a answer others
      | ask question next =>
          cases question with
          | save snapshot =>
              dsimp only [goOn, Oracle.answer]
              cases o.saveError? a.session snapshot with
              | some e => exact h
              | none =>
                  funext id
                  show (if id = a.session then _ else f.store id) =
                    (memory.save a.session snapshot).load id
                  rw [MemoryStore.load_save, h]
          | now | isCancelled | chat | consult | summarize | check | confirm | execute | review
          | report | warn => exact h

variable (setup) in
/-- The floor keeps what a store in memory keeps. -/
theorem store_perform (h : f.store = memory.load) (o : Oracle) (op : Op) :
    (f.perform setup o op).2.store = (memory.after (f.perform setup o op).1).load := by
  cases op with
  | receive m queueIfBusy =>
      show f.store = (memory.after (((f.desk.receive m queueIfBusy).1.entries m).map _)).load
      cases (f.desk.receive m queueIfBusy).1 <;> exact h
  | wipe id =>
      show (f.wipe id).store = memory.load
      unfold Floor.wipe
      split <;> exact h
  | clear id =>
      have hnone : ∀ sight ∈ ((f.desk.queue.waiting id).map Entry.dropped).map Sight.noted,
          sight.save? = none := by
        intro sight hsight
        obtain ⟨e, he, rfl⟩ := List.mem_map.mp hsight
        obtain ⟨m, -, rfl⟩ := List.mem_map.mp he
        rfl
      show f.store = (memory.after (((f.desk.queue.waiting id).map _).map _)).load
      rw [memory.after_same hnone]
      exact h
  | cancel id => exact h
  | goOn id now =>
      exact atWork_of (P := fun r => r.2.store = (memory.after r.1).load) h
        fun u before after _ _ => store_goOn h o now u (before, after)
  | cut id =>
      exact atWork_of (P := fun r => r.2.store = (memory.after r.1).load) h fun _ _ _ _ _ => h

variable (setup) in
theorem store_play (o : Oracle) (ops : List Op) :
    ∀ {f : Floor} {memory : MemoryStore}, f.store = memory.load →
      (play setup o f ops).2.store = (memory.after ((play setup o f ops).1.map (·.2))).load := by
  induction ops with
  | nil => exact fun h => h
  | cons op rest ih =>
      intro f memory h
      have hrest := ih (store_perform setup h o op)
      simp only [play]
      rw [List.map_append, List.map_map, MemoryStore.after_append, hrest]
      exact congrArg (fun sights => (((memory.after sights).after _).load)) (List.map_id _).symm

end Floor

end AgentSessions
