import AgentSessions.Hook.Registry

/-!
# Registering and removing handlers

A registry comes about by registering handlers and removing them again. Whatever is done, its
handlers stay in order (`Handler.InOrder`), those for calls and those for results: a name stands for
one handler, and no handler is behind one of lower priority. Handlers that are registered in this
order keep it.
-/

set_option autoImplicit false

namespace AgentSessions

variable {β γ : Type}

/-! ## Handlers in order -/

namespace Handler

/-- Handlers of different names, none behind one of lower priority. -/
structure InOrder (handlers : List (Handler β)) : Prop where
  distinct : (handlers.map Handler.name).Nodup
  sorted : handlers.Pairwise fun a b => notBehind a b = true

theorem notBehind_iff {a b : Handler β} : notBehind a b = true ↔ b.priority ≤ a.priority :=
  decide_eq_true_iff

theorem notBehind_trans (a b c : Handler β) (hab : notBehind a b = true)
    (hbc : notBehind b c = true) : notBehind a c = true := by
  rw [notBehind_iff] at hab hbc ⊢
  exact Int32.le_trans hbc hab

theorem notBehind_total (a b : Handler β) : (notBehind a b || notBehind b a) = true := by
  rw [Bool.or_eq_true, notBehind_iff, notBehind_iff]
  exact Int32.le_total _ _

theorem inOrder_nil : InOrder ([] : List (Handler β)) :=
  ⟨List.nodup_nil, .nil⟩

theorem InOrder.sublist {handlers part : List (Handler β)} (h : InOrder handlers)
    (hpart : part.Sublist handlers) : InOrder part :=
  ⟨h.distinct.sublist (hpart.map _), h.sorted.sublist hpart⟩

theorem InOrder.filter {handlers : List (Handler β)} (h : InOrder handlers)
    (keep : Handler β → Bool) : InOrder (handlers.filter keep) :=
  h.sublist List.filter_sublist

/-- No handler with the name of `h` is left among the others when `h` is registered. -/
theorem nodup_names_replaced {handlers : List (Handler β)}
    (hdistinct : (handlers.map Handler.name).Nodup) (h : Handler β) :
    ((handlers.filter (fun k => k.name ≠ h.name) ++ [h]).map Handler.name).Nodup := by
  rw [List.map_append, List.nodup_append]
  refine ⟨hdistinct.sublist (List.filter_sublist.map _), by simp, ?_⟩
  intro name hname name' hname'
  obtain ⟨k, hk, rfl⟩ := List.mem_map.mp hname
  have hother : k.name ≠ h.name := of_decide_eq_true (List.mem_filter.mp hk).2
  rwa [List.mem_singleton.mp hname']

theorem InOrder.register {handlers : List (Handler β)} (hs : InOrder handlers) (h : Handler β) :
    InOrder (register handlers h) where
  distinct :=
    ((List.mergeSort_perm _ _).map Handler.name).nodup_iff.mpr
      (nodup_names_replaced hs.distinct h)
  sorted := List.pairwise_mergeSort notBehind_trans notBehind_total _

/-- A handler that belongs behind all others is put there. -/
theorem register_of_last {handlers : List (Handler β)} {h : Handler β}
    (hs : InOrder (handlers ++ [h])) : Handler.register handlers h = handlers ++ [h] := by
  have hnew : handlers.filter (fun k => k.name ≠ h.name) = handlers := by
    have hdistinct := hs.distinct
    rw [List.map_append, List.nodup_append] at hdistinct
    refine List.filter_eq_self.mpr fun k hk => decide_eq_true ?_
    exact hdistinct.2.2 k.name (List.mem_map_of_mem hk) h.name List.mem_cons_self
  rw [Handler.register, hnew]
  exact List.mergeSort_of_pairwise hs.sorted

/-- Handlers that are registered in the order in which they run stand in that order. -/
theorem foldl_register_of_inOrder {handlers : List (Handler β)} (h : InOrder handlers) :
    handlers.foldl Handler.register [] = handlers := by
  -- what is registered already is a first part of the handlers, so the next one belongs behind it
  suffices hrest : ∀ kept : List (Handler β), InOrder (kept ++ handlers) →
      handlers.foldl Handler.register kept = kept ++ handlers from hrest [] h
  clear h
  induction handlers with
  | nil => exact fun kept _ => (List.append_nil kept).symm
  | cons k rest ih =>
      intro kept hkept
      rw [List.append_cons] at hkept ⊢
      rw [List.foldl_cons, register_of_last (hkept.sublist (List.sublist_append_left _ _))]
      exact ih (kept ++ [k]) hkept

end Handler

/-! ## Registries that come about -/

namespace HookRegistry

/-- What can be done to a registry. -/
inductive Change (β γ : Type) where
  | registerPre (h : Handler β)
  | registerPost (h : Handler γ)
  | unregister (name : String)

/-- The registry after a change. -/
def change (r : HookRegistry β γ) : Change β γ → HookRegistry β γ
  | .registerPre h => r.registerPre h
  | .registerPost h => r.registerPost h
  | .unregister name => r.unregister name

/-- The registry after these changes to the empty one. -/
def after (changes : List (Change β γ)) : HookRegistry β γ :=
  changes.foldl change empty

theorem after_append (changes changes' : List (Change β γ)) :
    after (changes ++ changes') = changes'.foldl change (after changes) :=
  List.foldl_append

/-- The handlers of both lists are in order. -/
structure Arranged (r : HookRegistry β γ) : Prop where
  pre : Handler.InOrder r.pre
  post : Handler.InOrder r.post

theorem Arranged.change {r : HookRegistry β γ} (h : r.Arranged) (c : Change β γ) :
    (r.change c).Arranged := by
  cases c with
  | registerPre k => exact ⟨h.pre.register k, h.post⟩
  | registerPost k => exact ⟨h.pre, h.post.register k⟩
  | unregister name => exact ⟨h.pre.filter _, h.post.filter _⟩

/-- The handlers are in order, whatever was registered and removed. -/
theorem arranged_after (changes : List (Change β γ)) : (after changes).Arranged := by
  suffices h : ∀ r : HookRegistry β γ, r.Arranged → (changes.foldl HookRegistry.change r).Arranged
    from h empty ⟨Handler.inOrder_nil, Handler.inOrder_nil⟩
  induction changes with
  | nil => exact fun r hr => hr
  | cons c changes ih => exact fun r hr => ih (r.change c) (hr.change c)

theorem inOrder_preFor (changes : List (Change β γ)) (tool : String) :
    Handler.InOrder ((after changes).preFor tool) :=
  (arranged_after changes).pre.filter _

theorem inOrder_postFor (changes : List (Change β γ)) (tool : String) :
    Handler.InOrder ((after changes).postFor tool) :=
  (arranged_after changes).post.filter _

/-- Handlers for calls that are registered in the order in which they run stand in that order. -/
theorem pre_after_of_inOrder {handlers : List (Handler β)} (h : Handler.InOrder handlers) :
    (after (handlers.map (.registerPre (γ := γ)))).pre = handlers := by
  suffices hfold : ∀ r : HookRegistry β γ,
      ((handlers.map .registerPre).foldl change r).pre = handlers.foldl Handler.register r.pre from
    (hfold empty).trans (Handler.foldl_register_of_inOrder h)
  clear h
  induction handlers with
  | nil => exact fun r => rfl
  | cons k rest ih => exact fun r => ih (r.registerPre k)

/-- Handlers for results that are registered in the order in which they run do so, too. -/
theorem post_after_of_inOrder {handlers : List (Handler γ)} (h : Handler.InOrder handlers) :
    (after (handlers.map (.registerPost (β := β)))).post = handlers := by
  suffices hfold : ∀ r : HookRegistry β γ,
      ((handlers.map .registerPost).foldl change r).post = handlers.foldl Handler.register r.post
    from (hfold empty).trans (Handler.foldl_register_of_inOrder h)
  clear h
  induction handlers with
  | nil => exact fun r => rfl
  | cons k rest ih => exact fun r => ih (r.registerPost k)

/-! ## Removing several handlers -/

/-- Removing names one by one is removing them all. -/
theorem unregister_names (names : List String) (r : HookRegistry β γ) :
    names.foldl unregister r =
      ⟨r.pre.filter fun h => h.name ∉ names, r.post.filter fun h => h.name ∉ names⟩ := by
  have hall {δ : Type} (handlers : List (Handler δ)) (name : String) (rest : List String) :
      (handlers.filter fun h => h.name ≠ name).filter (fun h => h.name ∉ rest) =
        handlers.filter fun h => h.name ∉ name :: rest := by
    rw [List.filter_filter]
    refine List.filter_congr fun h _ => ?_
    rw [Bool.eq_iff_iff]
    simp only [Bool.and_eq_true, decide_eq_true_eq, List.mem_cons, not_or]
    exact and_comm
  induction names generalizing r with
  | nil =>
      have hnone {δ : Type} (handlers : List (Handler δ)) :
          handlers.filter (fun h => h.name ∉ ([] : List String)) = handlers :=
        List.filter_eq_self.mpr fun h _ => decide_eq_true List.not_mem_nil
      rw [List.foldl_nil, hnone, hnone]
  | cons name names ih => rw [List.foldl_cons, ih (r.unregister name), unregister, hall, hall]

/-- The handlers that run for a tool once those of some names are removed. -/
theorem preFor_unregister (names : List String) (r : HookRegistry β γ) (tool : String) :
    (names.foldl unregister r).preFor tool = (r.preFor tool).filter fun h => h.name ∉ names := by
  rw [unregister_names, preFor, preFor, List.filter_filter, List.filter_filter]
  exact List.filter_congr fun h _ => Bool.and_comm _ _

theorem postFor_unregister (names : List String) (r : HookRegistry β γ) (tool : String) :
    (names.foldl unregister r).postFor tool = (r.postFor tool).filter fun h => h.name ∉ names := by
  rw [unregister_names, postFor, postFor, List.filter_filter, List.filter_filter]
  exact List.filter_congr fun h _ => Bool.and_comm _ _

end HookRegistry

end AgentSessions
