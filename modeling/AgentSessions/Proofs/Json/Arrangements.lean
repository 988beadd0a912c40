import AgentSessions.Json.Value
import AgentSessions.Proofs.Dict

/-!
# The order of members

A record is written with its fields in the order of declaration, so its text has them in that
order; a value that is kept as a tree has the members of its objects sorted. Both are arrangements
of one value (`Value.arranged`). Sorting changes nothing where the members are sorted already, so
free JSON has one arrangement; of any other object whose members have different names it changes
the order alone, and look-ups do not see it (`Value.exists_members`).
-/

set_option autoImplicit false

namespace AgentSessions.Json.Value

/-! ## Canonical values -/

theorem isCanonical_object {members : List (String × Value)} :
    (Value.object members).isCanonical = true ↔
      Entries.Sorted members ∧ membersCanonical members = true := by
  rw [isCanonical, Bool.and_eq_true, decide_eq_true_iff]

theorem isCanonical_of_get? {members : List (String × Value)} {key : String} {value : Value}
    (h : membersCanonical members = true) (hfound : Entries.get? key members = some value) :
    value.isCanonical = true := by
  induction members with
  | nil => cases hfound
  | cons head rest ih =>
      rw [membersCanonical, Bool.and_eq_true] at h
      rw [Entries.get?] at hfound
      split at hfound
      · exact Option.some.inj hfound ▸ h.1
      · exact ih h.2 hfound

theorem canonicalizeItems_eq_map (items : List Value) :
    canonicalizeItems items = items.map canonicalize := by
  induction items with
  | nil => rfl
  | cons item rest ih => rw [canonicalizeItems, ih, List.map_cons]

/-- Members that come sorted are added one by one behind those that are there. -/
theorem canonicalizeMembers_of_pairwise {members acc : List (String × Value)}
    (h : ((acc ++ members).map Prod.fst).Pairwise (· < ·)) :
    canonicalizeMembers members acc = acc ++ members.map fun m => (m.1, m.2.canonicalize) := by
  induction members generalizing acc with
  | nil => exact (List.append_nil acc).symm
  | cons head rest ih =>
      obtain ⟨name, value⟩ := head
      have hbefore : ∀ m ∈ acc, m.1 < name := by
        intro m hm
        rw [List.map_append] at h
        exact (List.pairwise_append.mp h).2.2 _ (List.mem_map_of_mem hm) _ List.mem_cons_self
      have hrest : ((acc ++ [(name, value.canonicalize)] ++ rest).map Prod.fst).Pairwise
          (· < ·) := by
        simpa using h
      rw [canonicalizeMembers, Entries.insert_of_forall_lt _ hbefore, ih hrest, List.append_assoc,
        List.singleton_append, List.map_cons]

theorem canonicalizeMembers_of_sorted {members : List (String × Value)}
    (h : Entries.Sorted members) :
    canonicalizeMembers members [] = members.map fun m => (m.1, m.2.canonicalize) :=
  canonicalizeMembers_of_pairwise (List.pairwise_map.mpr h)

mutual

theorem canonicalize_of_canonical : (v : Value) → v.isCanonical = true → v.canonicalize = v
  | .null, _ | .bool _, _ | .int _, _ | .string _, _ => rfl
  | .float x, h => by
      have hfinite : x.isFinite = true := h
      rw [canonicalize, if_pos hfinite]
  | .array items, h => by
      rw [canonicalize, canonicalizeItems_eq_map, map_canonicalize items h]
  | .object members, h => by
      rw [isCanonical_object] at h
      rw [canonicalize, canonicalizeMembers_of_sorted h.1, map_canonicalize_members members h.2]

theorem map_canonicalize : (items : List Value) → areCanonical items = true →
    items.map canonicalize = items
  | [], _ => rfl
  | item :: rest, h => by
      rw [areCanonical, Bool.and_eq_true] at h
      rw [List.map_cons, canonicalize_of_canonical item h.1, map_canonicalize rest h.2]

theorem map_canonicalize_members : (members : List (String × Value)) →
    membersCanonical members = true →
    (members.map fun m => (m.1, m.2.canonicalize)) = members
  | [], _ => rfl
  | (name, value) :: rest, h => by
      rw [membersCanonical, Bool.and_eq_true] at h
      rw [List.map_cons, canonicalize_of_canonical value h.1, map_canonicalize_members rest h.2]

end

/-- Sorting members with different names keeps what a look-up finds. -/
theorem get?_canonicalizeMembers {members acc : List (String × Value)}
    (h : (members.map Prod.fst).Nodup) (name : String) :
    Entries.get? name (canonicalizeMembers members acc) =
      ((Entries.get? name members).map canonicalize).or (Entries.get? name acc) := by
  induction members generalizing acc with
  | nil => rfl
  | cons head rest ih =>
      obtain ⟨k, v⟩ := head
      rw [List.map_cons, List.nodup_cons] at h
      rw [canonicalizeMembers, ih h.2, Entries.get?_insert, Entries.get?]
      by_cases hname : name = k
      · rw [if_pos hname, if_pos hname, hname, Entries.get?_eq_none h.1]
        rfl
      · rw [if_neg hname, if_neg hname]

/-! ## Arrangements -/

/-- The value as it is written, or with the members of its objects sorted. -/
def arranged : Bool → Value → Value
  | false, v => v
  | true, v => v.canonicalize

theorem arranged_of_canonical {v : Value} (h : v.isCanonical = true) (sorted : Bool) :
    v.arranged sorted = v := by
  cases sorted with
  | false => rfl
  | true => exact canonicalize_of_canonical v h

theorem arranged_array (items : List Value) (sorted : Bool) :
    (Value.array items).arranged sorted = .array (items.map (arranged sorted)) := by
  cases sorted with
  | false => exact congrArg Value.array (List.map_id items).symm
  | true => exact congrArg Value.array (canonicalizeItems_eq_map items)

/-- Members that are sorted stay where they are. -/
theorem arranged_of_sorted {members : List (String × Value)} (h : Entries.Sorted members)
    (sorted : Bool) : (Value.object members).arranged sorted =
      .object (members.map fun m => (m.1, m.2.arranged sorted)) := by
  cases sorted with
  | false => exact congrArg Value.object (List.map_id members).symm
  | true => exact congrArg Value.object (canonicalizeMembers_of_sorted h)

/-- Members with different names may change their places, but a look-up finds the same. -/
theorem exists_members {members : List (String × Value)} (h : (members.map Prod.fst).Nodup)
    (sorted : Bool) : ∃ members', (Value.object members).arranged sorted = .object members' ∧
      (members'.map Prod.fst).Nodup ∧
      ∀ name, Entries.get? name members' = (Entries.get? name members).map (arranged sorted) := by
  cases sorted with
  | false => exact ⟨members, rfl, h, fun name => (congrFun Option.map_id _).symm⟩
  | true =>
      refine ⟨canonicalizeMembers members [], rfl, ?_, fun name => ?_⟩
      · exact Entries.nodup_keys (canonical_canonicalizeMembers members [] .nil rfl).1
      · rw [get?_canonicalizeMembers h, Entries.get?, Option.or_none]
        rfl

/-- Where the members are free JSON themselves, they only change their places. -/
theorem exists_perm {members : List (String × Value)} (h : (members.map Prod.fst).Nodup)
    (hcanonical : ∀ m ∈ members, m.2.isCanonical = true) (sorted : Bool) :
    ∃ members', (Value.object members).arranged sorted = .object members' ∧
      members'.Perm members := by
  obtain ⟨members', harranged, hdistinct, hsame⟩ := exists_members h sorted
  refine ⟨members', harranged, Entries.perm_of_get?_eq hdistinct h fun name => ?_⟩
  rw [hsame]
  cases hfound : Entries.get? name members with
  | none => rfl
  | some v =>
      have hv := hcanonical _ (Entries.mem_of_get? hfound)
      exact congrArg some (arranged_of_canonical hv sorted)

end AgentSessions.Json.Value
