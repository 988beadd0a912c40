import AgentSessions.Json.Merge
import AgentSessions.Proofs.Dict
import AgentSessions.Proofs.Json.Arrangements

/-!
# The laws of merging

Merging walks over the members of the source and binds each one anew. What it comes to is best seen
by look-ups: under every key stands what the members of both sides under that key come to
(`get?_mergeMembers`), and nothing else of either side matters there. Values of free JSON have their
members sorted, each key once, so a value is known by its look-ups (`Entries.eq_of_get?_eq`), and
the laws follow key by key: a value merged into itself or a second time changes nothing
(`merge_self`, `merge_merge`), and what the source does not mention stays (`at?_merge`).
-/

set_option autoImplicit false

namespace AgentSessions.Json

/-! ## Look-ups in merged members -/

/-- What a member of the target and one of the source under the same key come to. -/
def mergedMember (old : Option Value) : Option Value → Option Value
  | none => old
  | some .null => old
  | some value => some (old.elim value fun o => merge o value)

@[simp] theorem mergedMember_none (old : Option Value) : mergedMember old none = old := rfl

@[simp] theorem mergedMember_null (old : Option Value) : mergedMember old (some .null) = old := rfl

theorem mergedMember_some {value : Value} (h : value ≠ .null) (old : Option Value) :
    mergedMember old (some value) = some (old.elim value fun o => merge o value) := by
  cases value with
  | null => exact absurd rfl h
  | _ => rfl

/-- One member of the source: a `null` is passed over, anything else is bound anew. -/
theorem mergeMembers_cons (lower : List (String × Value)) (key : String) (value : Value)
    (rest : List (String × Value)) :
    mergeMembers lower ((key, value) :: rest) =
      mergeMembers (if value = .null then lower
        else Entries.insert key
          ((Entries.get? key lower).elim value fun o => merge o value) lower) rest := by
  by_cases hnull : value = .null
  · subst hnull
    rw [if_pos rfl, mergeMembers]
  · rw [if_neg hnull]
    cases hold : Entries.get? key lower with
    | none => exact mergeMembers.eq_4 lower key rest value hnull hold
    | some old => exact mergeMembers.eq_3 lower key rest value old hnull hold

/-- Under every key stands what both members there come to. -/
theorem get?_mergeMembers {upper : List (String × Value)} (hupper : (upper.map Prod.fst).Nodup)
    (lower : List (String × Value)) (key : String) :
    Entries.get? key (mergeMembers lower upper) =
      mergedMember (Entries.get? key lower) (Entries.get? key upper) := by
  induction upper generalizing lower with
  | nil => rfl
  | cons head rest ih =>
      obtain ⟨k, value⟩ := head
      rw [List.map_cons, List.nodup_cons] at hupper
      have hlater := Entries.get?_eq_none hupper.1
      rw [mergeMembers_cons, ih hupper.2, Entries.get?]
      by_cases hnull : value = .null
      · subst hnull
        rw [if_pos rfl]
        by_cases hkey : key = k
        · rw [if_pos hkey, hkey, hlater, mergedMember_none, mergedMember_null]
        · rw [if_neg hkey]
      · rw [if_neg hnull, Entries.get?_insert]
        by_cases hkey : key = k
        · -- the key is not met again, so what was bound stays
          rw [if_pos hkey, if_pos hkey, hkey, hlater, mergedMember_none, mergedMember_some hnull]
        · rw [if_neg hkey, if_neg hkey]

/-! ## Merged values are values -/

theorem sorted_mergeMembers (upper : List (String × Value)) {lower : List (String × Value)}
    (h : Entries.Sorted lower) : Entries.Sorted (mergeMembers lower upper) := by
  induction upper generalizing lower with
  | nil => exact h
  | cons head rest ih =>
      rw [mergeMembers_cons]
      split
      · exact ih h
      · exact ih (Entries.sorted_insert _ _ h)

mutual

theorem isCanonical_merge : (t s : Value) → t.isCanonical = true → s.isCanonical = true →
    (merge t s).isCanonical = true
  | t, .object upper, ht, hs => by
      cases t with
      | object lower =>
          rw [Value.isCanonical_object] at ht hs
          exact Value.isCanonical_object.mpr ⟨sorted_mergeMembers upper ht.1,
            canonical_mergeMembers lower upper ht.2 hs.2⟩
      | _ => exact hs
  | _, .null, _, hs | _, .bool _, _, hs | _, .int _, _, hs | _, .float _, _, hs
  | _, .string _, _, hs | _, .array _, _, hs => hs

theorem canonical_mergeMembers : (lower upper : List (String × Value)) →
    Value.membersCanonical lower = true → Value.membersCanonical upper = true →
    Value.membersCanonical (mergeMembers lower upper) = true
  | _, [], hlower, _ => hlower
  | lower, (key, value) :: rest, hlower, hupper => by
      rw [Value.membersCanonical, Bool.and_eq_true] at hupper
      rw [mergeMembers_cons]
      split
      · exact canonical_mergeMembers lower rest hlower hupper.2
      · refine canonical_mergeMembers _ rest (membersCanonical_insert ?_ hlower) hupper.2
        cases hold : Entries.get? key lower with
        | none => exact hupper.1
        | some old =>
            have hcanonical := Value.isCanonical_of_get? hlower hold
            exact isCanonical_merge old value hcanonical hupper.1

end

/-! ## Merging a value into itself, and a second time -/

theorem merge_of_not_object {s : Value} (h : ∀ members, s ≠ .object members) (t : Value) :
    merge t s = s := by
  cases s with
  | object members => exact absurd rfl (h members)
  | _ => rfl

mutual

/-- A value merged into itself stays as it is. -/
theorem merge_self : (t : Value) → t.isCanonical = true → merge t t = t
  | .object members, h => by
      rw [Value.isCanonical_object] at h
      refine congrArg Value.object (Entries.eq_of_get?_eq (sorted_mergeMembers _ h.1) h.1 ?_)
      intro key
      rw [get?_mergeMembers (Entries.nodup_keys h.1)]
      cases hfound : Entries.get? key members with
      | none => rfl
      | some value =>
          by_cases hnull : value = .null
          · rw [hnull, mergedMember_null]
          · rw [mergedMember_some hnull]
            exact congrArg some (merge_self_of_mem members h.2 _ (Entries.mem_of_get? hfound))
  | .null, _ | .bool _, _ | .int _, _ | .float _, _ | .string _, _ | .array _, _ => rfl

theorem merge_self_of_mem : (members : List (String × Value)) →
    Value.membersCanonical members = true → ∀ m ∈ members, merge m.2 m.2 = m.2
  | [], _ => List.forall_mem_nil _
  | (_, value) :: rest, h => by
      rw [Value.membersCanonical, Bool.and_eq_true] at h
      exact List.forall_mem_cons.mpr ⟨merge_self value h.1, merge_self_of_mem rest h.2⟩

end

mutual

/-- Merging the same source a second time changes nothing. -/
theorem merge_merge : (t s : Value) → t.isCanonical = true → s.isCanonical = true →
    merge (merge t s) s = merge t s
  | t, .object upper, ht, hs => by
      cases t with
      | object lower =>
          rw [Value.isCanonical_object] at ht
          have hupper := Value.isCanonical_object.mp hs
          have honce := sorted_mergeMembers upper ht.1
          have htwice := sorted_mergeMembers upper honce
          refine congrArg Value.object (Entries.eq_of_get?_eq htwice honce ?_)
          intro key
          rw [get?_mergeMembers (Entries.nodup_keys hupper.1),
            get?_mergeMembers (Entries.nodup_keys hupper.1)]
          cases hfound : Entries.get? key upper with
          | none => rfl
          | some value =>
              by_cases hnull : value = .null
              · rw [hnull, mergedMember_null, mergedMember_null]
              · rw [mergedMember_some hnull, mergedMember_some hnull]
                have hvalue := Value.isCanonical_of_get? hupper.2 hfound
                -- the member was merged or copied before; now it is merged once more
                cases hold : Entries.get? key lower with
                | none => exact congrArg some (merge_self value hvalue)
                | some old =>
                    exact congrArg some (merge_merge_of_mem upper hupper.2 _
                      (Entries.mem_of_get? hfound) old (Value.isCanonical_of_get? ht.2 hold))
      | _ => exact merge_self _ hs
  | _, .null, _, _ | _, .bool _, _, _ | _, .int _, _, _ | _, .float _, _, _
  | _, .string _, _, _ | _, .array _, _, _ => rfl

theorem merge_merge_of_mem : (upper : List (String × Value)) →
    Value.membersCanonical upper = true → ∀ m ∈ upper, ∀ old : Value, old.isCanonical = true →
      merge (merge old m.2) m.2 = merge old m.2
  | [], _ => List.forall_mem_nil _
  | (_, value) :: rest, h => by
      rw [Value.membersCanonical, Bool.and_eq_true] at h
      exact List.forall_mem_cons.mpr ⟨fun old hold => merge_merge old value hold h.1,
        merge_merge_of_mem rest h.2⟩

end

/-! ## Paths -/

namespace Value

/-- What stands at a path of keys. -/
def at? : List String → Value → Option Value
  | [], v => some v
  | key :: rest, .object members => (Entries.get? key members).bind (at? rest)
  | _ :: _, _ => none

/-- All on the way to the last key of the path are objects. -/
def HasWay (path : List String) (v : Value) : Prop :=
  ∀ part, part <+: path → part ≠ path → ∃ members, v.at? part = some (.object members)

/-- The way to a path begins at an object, and goes on from the value under its first key. -/
theorem hasWay_cons {key : String} {rest : List String} {v : Value} :
    v.HasWay (key :: rest) ↔ ∃ members, v = .object members ∧
      (rest ≠ [] → ∃ below, Entries.get? key members = some below ∧ below.HasWay rest) := by
  constructor
  · intro h
    obtain ⟨members, hmembers⟩ := h [] List.nil_prefix (List.cons_ne_nil key rest).symm
    obtain rfl := Option.some.inj hmembers
    refine ⟨members, rfl, fun hrest => ?_⟩
    obtain ⟨members', hbelow⟩ :=
      h [key] (List.prefix_append [key] rest) fun hsame => hrest (List.cons.inj hsame).2.symm
    have hfound : Entries.get? key members = some (.object members') := by
      simpa [at?] using hbelow
    refine ⟨.object members', hfound, fun part hpart hproper => ?_⟩
    have hfurther := h (key :: part) (List.cons_prefix_cons.mpr ⟨rfl, hpart⟩)
      fun hsame => hproper (List.cons.inj hsame).2
    simpa [at?, hfound] using hfurther
  · rintro ⟨members, rfl, hfurther⟩ part hpart hproper
    cases part with
    | nil => exact ⟨members, rfl⟩
    | cons key' part =>
        obtain ⟨rfl, hshorter⟩ := List.cons_prefix_cons.mp hpart
        have hne : part ≠ rest := fun hsame => hproper (congrArg (key' :: ·) hsame)
        have hrest : rest ≠ [] := by
          rintro rfl
          exact hne (List.prefix_nil.mp hshorter)
        obtain ⟨below, hfound, hway⟩ := hfurther hrest
        simpa [at?, hfound] using hway part hshorter hne

end Value

/-- What stands at a path that the source does not mention stays, as long as both sides have objects
all the way there. -/
theorem at?_merge {path : List String} {t s : Value} (ht : t.isCanonical = true)
    (hs : s.isCanonical = true) (hpath : path ≠ []) (htway : t.HasWay path)
    (hsway : s.HasWay path) (hlast : s.at? path = none ∨ s.at? path = some .null) :
    (merge t s).at? path = t.at? path := by
  induction path generalizing t s with
  | nil => exact absurd rfl hpath
  | cons key rest ih =>
      obtain ⟨lower, rfl, hlower⟩ := Value.hasWay_cons.mp htway
      obtain ⟨upper, rfl, hupper⟩ := Value.hasWay_cons.mp hsway
      rw [Value.isCanonical_object] at ht hs
      have hmerged : (merge (.object lower) (.object upper)).at? (key :: rest) =
          (mergedMember (Entries.get? key lower) (Entries.get? key upper)).bind
            (Value.at? rest) := by
        rw [← get?_mergeMembers (Entries.nodup_keys hs.1)]
        rfl
      rw [hmerged]
      by_cases hrest : rest = []
      · -- the last key of the path: the source has nothing there, or `null`
        subst hrest
        have hend : Entries.get? key upper = none ∨ Entries.get? key upper = some .null := by
          simpa [Value.at?] using hlast
        rcases hend with hnone | hnull
        · rw [hnone]
          rfl
        · rw [hnull]
          rfl
      · obtain ⟨old, hold, holdway⟩ := hlower hrest
        obtain ⟨value, hvalue, hvalueway⟩ := hupper hrest
        -- further keys follow, so the source has an object here, which is merged into the old one
        have hobject : value ≠ .null := by
          rintro rfl
          obtain ⟨members, hmembers⟩ := hvalueway [] List.nil_prefix (Ne.symm hrest)
          cases hmembers
        rw [Value.at?, hvalue] at hlast
        rw [hold, hvalue, mergedMember_some hobject, Value.at?, hold]
        exact ih (Value.isCanonical_of_get? ht.2 hold) (Value.isCanonical_of_get? hs.2 hvalue)
          hrest holdway hvalueway hlast

/-! ## The laws -/

/-- Whether the value is an object. -/
def Value.IsObject (v : Value) : Prop :=
  ∃ members, v = .object members

/-- The members are those of an object with those of another one put over them, key by key. -/
structure MergedMembers (lower upper merged : List (String × Value)) : Prop where
  keys : ∀ key, key ∈ merged.map Prod.fst ↔
    key ∈ lower.map Prod.fst ∨ ∃ value, Entries.get? key upper = some value ∧ value ≠ .null
  kept : ∀ key, Entries.get? key upper = none ∨ Entries.get? key upper = some .null →
    Entries.get? key merged = Entries.get? key lower
  copied : ∀ key value, Entries.get? key upper = some value → value ≠ .null →
    Entries.get? key lower = none → Entries.get? key merged = some value
  merged : ∀ key value old, Entries.get? key upper = some value → value ≠ .null →
    Entries.get? key lower = some old → Entries.get? key merged = some (merge old value)

theorem mergedMembers_mergeMembers {upper : List (String × Value)}
    (hupper : (upper.map Prod.fst).Nodup) (lower : List (String × Value)) :
    MergedMembers lower upper (mergeMembers lower upper) where
  keys key := by
    rw [Entries.mem_keys_iff, Entries.mem_keys_iff, get?_mergeMembers hupper]
    cases hfound : Entries.get? key upper with
    | none => simp
    | some value =>
        by_cases hnull : value = .null
        · simp [hnull]
        · simp [mergedMember_some hnull, hnull]
  kept key h := by
    rw [get?_mergeMembers hupper]
    rcases h with h | h
    · rw [h, mergedMember_none]
    · rw [h, mergedMember_null]
  copied key value hvalue hnull hold := by
    rw [get?_mergeMembers hupper, hvalue, mergedMember_some hnull, hold, Option.elim_none]
  merged key value old hvalue hnull hold := by
    rw [get?_mergeMembers hupper, hvalue, mergedMember_some hnull, hold, Option.elim_some]

/-- The laws of merging. Objects are merged key by key, into an object of free JSON again; of
anything else the source is what is left. So a value merged into itself stays, merging a source a
second time changes nothing, and what stands at a path that the source does not mention is still
there. -/
theorem merge_laws {t s : Value} (ht : t.isCanonical = true) (hs : s.isCanonical = true) :
    (∀ lower upper, t = .object lower → s = .object upper →
      ∃ merged, merge t s = .object merged ∧ (Value.object merged).isCanonical = true ∧
        MergedMembers lower upper merged) ∧
    (¬ t.IsObject ∨ ¬ s.IsObject → merge t s = s) ∧
    merge t t = t ∧
    merge (merge t s) s = merge t s ∧
    ∀ path : List String, path ≠ [] → t.HasWay path → s.HasWay path →
      s.at? path = none ∨ s.at? path = some .null → (merge t s).at? path = t.at? path := by
  refine ⟨?_, ?_, merge_self t ht, merge_merge t s ht hs,
    fun path hpath htway hsway hlast => at?_merge ht hs hpath htway hsway hlast⟩
  · rintro lower upper rfl rfl
    have hupper := Entries.nodup_keys (Value.isCanonical_object.mp hs).1
    exact ⟨mergeMembers lower upper, rfl, isCanonical_merge _ _ ht hs,
      mergedMembers_mergeMembers hupper lower⟩
  · rintro (hobject | hobject)
    · cases s with
      | object upper =>
          cases t with
          | object lower => exact absurd ⟨lower, rfl⟩ hobject
          | _ => rfl
      | _ => rfl
    · exact merge_of_not_object (fun members hmembers => hobject ⟨members, hmembers⟩) t

namespace Sample

/-- Something to put other members over. -/
def target : Value :=
  .object [("a", .object [("x", .int 1)]), ("b", .null)]

/-- A source that passes over one member with `null` and copies an object that has one. -/
def source : Value :=
  .object [("a", .object [("x", .null), ("y", .object [("z", .null)])]), ("c", .int 2)]

end Sample

/-- In the sample one `null` leaves what it meets, and another one is copied with its object. -/
theorem merge_laws_sample :
    Sample.target.isCanonical = true ∧ Sample.source.isCanonical = true ∧
      merge Sample.target Sample.source =
        .object [("a", .object [("x", .int 1), ("y", .object [("z", .null)])]), ("b", .null),
          ("c", .int 2)] ∧
      merge (merge Sample.target Sample.source) Sample.source =
        merge Sample.target Sample.source ∧
      Sample.target.HasWay ["a", "x"] ∧ Sample.source.HasWay ["a", "x"] ∧
      Sample.source.at? ["a", "x"] = some .null ∧
      (merge Sample.target Sample.source).at? ["a", "x"] = Sample.target.at? ["a", "x"] := by
  have ht : Sample.target.isCanonical = true := by decide
  have hs : Sample.source.isCanonical = true := by decide
  have htway : Sample.target.HasWay ["a", "x"] :=
    Value.hasWay_cons.mpr ⟨_, rfl, fun _ => ⟨_, rfl, Value.hasWay_cons.mpr
      ⟨_, rfl, fun hne => absurd rfl hne⟩⟩⟩
  have hsway : Sample.source.HasWay ["a", "x"] :=
    Value.hasWay_cons.mpr ⟨_, rfl, fun _ => ⟨_, rfl, Value.hasWay_cons.mpr
      ⟨_, rfl, fun hne => absurd rfl hne⟩⟩⟩
  have hnull : Sample.source.at? ["a", "x"] = some .null := by decide
  obtain ⟨-, -, -, htwice, hpath⟩ := merge_laws ht hs
  exact ⟨ht, hs, by decide, htwice, htway, hsway, hnull,
    hpath ["a", "x"] (List.cons_ne_nil _ _) htway hsway (.inr hnull)⟩

end AgentSessions.Json
