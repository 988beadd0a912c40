import AgentSessions.Dict

/-!
# Looking up in dictionaries

What a look-up finds after a binding was made or removed: the key that was bound or removed shows
the change, and every other key is as before; what is listed is what a look-up finds. With these
facts nothing else needs to know how entries are kept.
-/

set_option autoImplicit false

namespace AgentSessions

variable {α : Type}

namespace Entries

theorem get?_insert (key key' : String) (value : α) (entries : List (String × α)) :
    get? key' (insert key value entries) =
      if key' = key then some value else get? key' entries := by
  induction entries with
  | nil => simp [insert, get?]
  | cons head rest ih =>
      obtain ⟨k, v⟩ := head
      by_cases h1 : key = k
      · subst h1
        rw [insert, if_pos rfl]
        by_cases h : key' = key <;> simp [get?, h]
      · by_cases h2 : key < k
        · rw [insert, if_neg h1, if_pos h2]
          simp [get?]
        · rw [insert, if_neg h1, if_neg h2, get?, get?, ih]
          by_cases h : key' = k
          · subst h
            simp [Ne.symm h1]
          · simp [h]

theorem get?_erase (key key' : String) (entries : List (String × α)) :
    get? key' (erase key entries) = if key' = key then none else get? key' entries := by
  induction entries with
  | nil => simp [erase, get?]
  | cons head rest ih =>
      obtain ⟨k, v⟩ := head
      have step : erase key ((k, v) :: rest) =
          if k = key then erase key rest else (k, v) :: erase key rest := by
        by_cases h : k = key <;> simp [erase, h]
      rw [step, get?]
      by_cases h : k = key
      · subst h
        rw [if_pos rfl, ih]
        by_cases h' : key' = k <;> simp [h']
      · rw [if_neg h, get?, ih]
        by_cases h' : key' = k
        · subst h'
          simp [h]
        · simp [h']

theorem get?_filter (test : String → Bool) (key : String) (entries : List (String × α)) :
    get? key (entries.filter fun e => test e.1) = if test key then get? key entries else none := by
  induction entries with
  | nil => simp [get?]
  | cons head rest ih =>
      obtain ⟨k, v⟩ := head
      rw [List.filter_cons, get?]
      by_cases h : key = k
      · subst h
        cases htest : test key <;> simp [get?, ih, htest]
      · cases htest : test k <;> simp [get?, ih, h]

/-- Where no key is listed twice, a look-up finds what is listed. -/
theorem get?_of_mem {entries : List (String × α)} (hkeys : (entries.map Prod.fst).Nodup)
    {key : String} {value : α} (h : (key, value) ∈ entries) : get? key entries = some value := by
  induction entries with
  | nil => cases h
  | cons head rest ih =>
      obtain ⟨k, v⟩ := head
      rw [List.map_cons, List.nodup_cons] at hkeys
      rw [get?]
      rcases List.mem_cons.mp h with hhead | hrest
      · cases hhead
        exact if_pos rfl
      · have hlisted : key ∈ rest.map Prod.fst := List.mem_map_of_mem hrest
        have hother : key ≠ k := fun hsame => hkeys.1 (hsame ▸ hlisted)
        rw [if_neg hother]
        exact ih hkeys.2 hrest

theorem mem_of_get? {entries : List (String × α)} {key : String} {value : α}
    (h : get? key entries = some value) : (key, value) ∈ entries := by
  induction entries with
  | nil => cases h
  | cons head rest ih =>
      obtain ⟨k, v⟩ := head
      rw [get?] at h
      split at h
      · rename_i hkey
        cases h
        exact hkey ▸ List.mem_cons_self
      · exact List.mem_cons_of_mem _ (ih h)

theorem get?_eq_none {entries : List (String × α)} {key : String}
    (h : key ∉ entries.map Prod.fst) : get? key entries = none := by
  refine Option.eq_none_iff_forall_ne_some.mpr fun value hfound => h ?_
  exact List.mem_map_of_mem (f := Prod.fst) (mem_of_get? hfound)

/-- Entries with different keys may change their places. -/
theorem get?_of_perm {entries entries' : List (String × α)} (h : entries.Perm entries')
    (hkeys : (entries'.map Prod.fst).Nodup) (key : String) :
    get? key entries = get? key entries' := by
  have hkeys' : (entries.map Prod.fst).Nodup := (h.map Prod.fst).nodup_iff.mpr hkeys
  refine Option.ext fun value => ⟨fun hfound => ?_, fun hfound => ?_⟩
  · exact get?_of_mem hkeys (h.mem_iff.mp (mem_of_get? hfound))
  · exact get?_of_mem hkeys' (h.mem_iff.mpr (mem_of_get? hfound))

/-- Entries with different keys and the same look-ups differ in their places alone. -/
theorem perm_of_get?_eq {entries entries' : List (String × α)}
    (h : (entries.map Prod.fst).Nodup) (h' : (entries'.map Prod.fst).Nodup)
    (hsame : ∀ key, get? key entries = get? key entries') : entries.Perm entries' := by
  have hnodup {l : List (String × α)} (hkeys : (l.map Prod.fst).Nodup) : l.Nodup :=
    (List.pairwise_map.mp hkeys).imp fun hne hsame => hne (congrArg Prod.fst hsame)
  refine (List.perm_ext_iff_of_nodup (hnodup h) (hnodup h')).mpr fun e => ?_
  refine ⟨fun he => ?_, fun he => ?_⟩
  · exact mem_of_get? ((hsame e.1).symm.trans (get?_of_mem h he))
  · exact mem_of_get? ((hsame e.1).trans (get?_of_mem h' he))

/-- The keys of sorted entries are different. -/
theorem nodup_keys {entries : List (String × α)} (h : Sorted entries) :
    (entries.map Prod.fst).Nodup := by
  refine List.pairwise_map.mpr (h.imp fun {e e'} hlt hsame => ?_)
  rw [hsame] at hlt
  exact String.lt_irrefl _ hlt

/-- Each key is bound once, so what is listed under it is what a look-up finds. -/
theorem mem_iff_get? {entries : List (String × α)} (hsorted : Sorted entries) (key : String)
    (value : α) : (key, value) ∈ entries ↔ get? key entries = some value :=
  ⟨get?_of_mem (nodup_keys hsorted), mem_of_get?⟩

/-- Sorted entries with the same look-ups are the same. -/
theorem eq_of_get?_eq {entries entries' : List (String × α)}
    (h : Sorted entries) (h' : Sorted entries')
    (hsame : ∀ key, get? key entries = get? key entries') : entries = entries' := by
  have hperm := perm_of_get?_eq (nodup_keys h) (nodup_keys h') hsame
  refine hperm.eq_of_pairwise ?_ h h'
  intro e e' _ _ hlt hgt
  exact absurd hgt (String.lt_asymm hlt)

/-- The keys are those under which a look-up finds something. -/
theorem mem_keys_iff {entries : List (String × α)} {key : String} :
    key ∈ entries.map Prod.fst ↔ ∃ value, get? key entries = some value := by
  constructor
  · intro hmem
    cases hfound : get? key entries with
    | some value => exact ⟨value, rfl⟩
    | none =>
        induction entries with
        | nil => exact absurd hmem List.not_mem_nil
        | cons head rest ih =>
            rw [get?] at hfound
            split at hfound
            · cases hfound
            · rename_i hother
              exact ih ((List.mem_cons.mp hmem).resolve_left hother) hfound
  · rintro ⟨value, hfound⟩
    exact List.mem_map_of_mem (f := Prod.fst) (mem_of_get? hfound)

/-- A key behind all others is bound at the end. -/
theorem insert_of_forall_lt {key : String} (value : α) {entries : List (String × α)}
    (h : ∀ e ∈ entries, e.1 < key) : insert key value entries = entries ++ [(key, value)] := by
  induction entries with
  | nil => rfl
  | cons head rest ih =>
      obtain ⟨k, v⟩ := head
      obtain ⟨hhead, hrest⟩ := List.forall_mem_cons.mp h
      have hother : key ≠ k := fun hsame => String.lt_irrefl k (hsame ▸ hhead)
      rw [insert, if_neg hother, if_neg (fun hbefore => String.lt_asymm hbefore hhead),
        ih hrest, List.cons_append]

/-- Sorted entries are what one gets by binding their keys in turn. -/
theorem insert_of_sorted {key : String} {value : α} {entries rest : List (String × α)}
    (h : Sorted (entries ++ (key, value) :: rest)) :
    insert key value entries = entries ++ [(key, value)] :=
  insert_of_forall_lt value fun e he => (List.pairwise_append.mp h).2.2 e he _ List.mem_cons_self

end Entries

namespace Dict

theorem eq_of_entries {d e : Dict α} (h : d.entries = e.entries) : d = e := by
  cases d
  cases e
  cases h
  rfl

@[simp] theorem get?_insert (d : Dict α) (key key' : String) (value : α) :
    (d.insert key value).get? key' = if key' = key then some value else d.get? key' :=
  Entries.get?_insert key key' value d.entries

@[simp] theorem get?_erase (d : Dict α) (key key' : String) :
    (d.erase key).get? key' = if key' = key then none else d.get? key' :=
  Entries.get?_erase key key' d.entries

@[simp] theorem get?_filterKeys (d : Dict α) (test : String → Bool) (key : String) :
    (d.filterKeys test).get? key = if test key then d.get? key else none :=
  Entries.get?_filter test key d.entries

theorem mem_entries_iff (d : Dict α) (key : String) (value : α) :
    (key, value) ∈ d.entries ↔ d.get? key = some value :=
  Entries.mem_iff_get? d.sorted key value

end Dict

end AgentSessions
