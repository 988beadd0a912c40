import AgentSessions.Json.Decode
import AgentSessions.Proofs.Json.Arrangements

/-!
# Reading back simple and free values

`Decoder.Reads` says that a decoder reads a value as a given result, in both of its arrangements.
Here it is shown of texts, numbers, lists, dictionaries and variants, each in the form in which it
is written, and of free JSON: a canonical value is read back as itself. The members of such a value
are sorted, so adding them in turn adds each one at the end.
-/

set_option autoImplicit false

namespace AgentSessions.Json

variable {α β : Type} {d : Decoder α} {v : Value} {a : α}

/-- The decoder reads the value as this, as it is written and with sorted members. -/
def Decoder.Reads (d : Decoder α) (v : Value) (a : α) : Prop :=
  ∀ sorted, d none (.ofValue (v.arranged sorted)) = .ok a

/-- The value is written as something else than `null`. -/
def Value.IsShown (v : Value) : Prop :=
  ∀ sorted, Node.ofValue (v.arranged sorted) ≠ .null

namespace Decoder

theorem value?_eq_ok (h : d none (.ofValue v) = .ok a) : d.value? v = .ok a := by
  rw [Decoder.value?, h]

theorem Reads.of_canonical (hv : v.isCanonical = true) (h : d none (.ofValue v) = .ok a) :
    d.Reads v a := by
  intro sorted
  rw [Value.arranged_of_canonical hv]
  exact h

/-! ## Simple types -/

theorem Reads.map (h : d.Reads v a) (f : α → β) : (Decoder.map f d).Reads v (f a) := by
  intro sorted
  show (d none (.ofValue (v.arranged sorted))).map f = _
  rw [h sorted]
  rfl

theorem reads_string (s : String) : Decoder.string.Reads (.string s) s :=
  .of_canonical rfl rfl

theorem reads_bool (b : Bool) : Decoder.bool.Reads (.bool b) b :=
  .of_canonical rfl rfl

theorem reads_whole {low high i : Int} (hlow : low ≤ i) (hhigh : i ≤ high) :
    (Decoder.whole low high).Reads (.int i) i :=
  .of_canonical rfl (if_pos ⟨hlow, hhigh⟩)

theorem reads_uint32 (n : UInt32) : Decoder.uint32.Reads (.nat n.toNat) n := by
  have hlimit := UInt32.toNat_lt n
  have hread := (reads_whole (Int.natCast_nonneg n.toNat)
    (show (n.toNat : Int) ≤ 4294967295 by omega)).map fun i => UInt32.ofNat i.toNat
  rw [Int.toNat_natCast, UInt32.ofNat_toNat] at hread
  exact hread

theorem reads_uint64 (n : UInt64) : Decoder.uint64.Reads (.nat n.toNat) n := by
  have hlimit := UInt64.toNat_lt n
  have hread := (reads_whole (Int.natCast_nonneg n.toNat)
    (show (n.toNat : Int) ≤ 18446744073709551615 by omega)).map fun i => UInt64.ofNat i.toNat
  rw [Int.toNat_natCast, UInt64.ofNat_toNat] at hread
  exact hread

theorem reads_float {x : Binary64} (h : x.isFinite = true) :
    Decoder.float.Reads (.float x) x := by
  refine .of_canonical h ?_
  rw [Node.ofValue, if_pos h]
  rfl

theorem reads_oneOfWith (blank : Blank) {names : List (String × α)} {name : String}
    (h : Entries.get? name names = some a) :
    (Decoder.oneOfWith blank names).Reads (.string name) a := by
  refine .of_canonical rfl ?_
  show Decoder.variant names name = _
  rw [Decoder.variant, h]

theorem reads_oneOf {names : List (String × α)} {name : String}
    (h : Entries.get? name names = some a) : (Decoder.oneOf names).Reads (.string name) a :=
  reads_oneOfWith Blank.null h

/-! ## Values that may be absent -/

theorem isShown_string (s : String) : (Value.string s).IsShown := by
  intro sorted
  cases sorted <;> exact fun hnull => nomatch hnull

theorem isShown_nat (n : Nat) : (Value.nat n).IsShown := by
  intro sorted
  cases sorted <;> exact fun hnull => nomatch hnull

theorem isShown_array (items : List Value) : (Value.array items).IsShown := by
  intro sorted
  cases sorted <;> exact fun hnull => nomatch hnull

theorem isShown_object (members : List (String × Value)) : (Value.object members).IsShown := by
  intro sorted
  cases sorted <;> exact fun hnull => nomatch hnull

theorem Reads.nullable (h : d.Reads v a) (hshown : v.IsShown) :
    (Decoder.nullable d).Reads v (some a) := by
  intro sorted
  unfold Decoder.nullable
  split
  · rename_i hnull
    exact (hshown sorted hnull).elim
  · rw [h sorted]
    rfl

theorem reads_nullable {encode : α → Value} (h : ∀ a, d.Reads (encode a) a)
    (hshown : ∀ a, (encode a).IsShown) (o : Option α) :
    (Decoder.nullable d).Reads (Value.nullable encode o) o := by
  cases o with
  | none => exact .of_canonical rfl rfl
  | some a => exact (h a).nullable (hshown a)

/-! ## Containers -/

theorem items_ofItems (encode : α → Value) {as : List α}
    (h : ∀ a ∈ as, d none (.ofValue (encode a)) = .ok a) :
    Decoder.items d none (Node.ofItems (as.map encode)) = .ok as := by
  induction as with
  | nil => rfl
  | cons a as ih =>
      obtain ⟨ha, has⟩ := List.forall_mem_cons.mp h
      rw [List.map_cons, Node.ofItems, Decoder.items, ha, ih has]
      rfl

theorem reads_list {encode : α → Value} {as : List α} (h : ∀ a ∈ as, d.Reads (encode a) a) :
    (Decoder.list d).Reads (.array (as.map encode)) as := by
  intro sorted
  have hitems := items_ofItems (Value.arranged sorted ∘ encode) fun a ha => h a ha sorted
  rw [Value.arranged_array, List.map_map, Node.ofValue, Decoder.list]
  simp only [Node.enter, bind, Except.bind, hitems]
  rfl

theorem reads_strings (texts : List String) :
    (Decoder.list Decoder.string).Reads (.strings texts) texts :=
  reads_list fun s _ => reads_string s

/-- Members are read behind those that were read before, as long as all of them are sorted. -/
theorem entries_ofMembers {encode : α → Value} {members : List (String × α)} (acc : Dict α)
    (hsorted : Entries.Sorted (acc.entries ++ members))
    (h : ∀ e ∈ members, d none (.ofValue (encode e.2)) = .ok e.2) :
    (Decoder.entries d none (Node.ofMembers (members.map fun e => (e.1, encode e.2))) acc).map
      Dict.entries = .ok (acc.entries ++ members) := by
  induction members generalizing acc with
  | nil => rw [List.append_nil]; rfl
  | cons head rest ih =>
      obtain ⟨name, a⟩ := head
      obtain ⟨ha, hrest⟩ := List.forall_mem_cons.mp h
      have hread : d none (.ofValue (encode a)) = .ok a := ha
      have hinsert : (acc.insert name a).entries = acc.entries ++ [(name, a)] :=
        Entries.insert_of_sorted hsorted
      -- what was read and what is left are the same sorted list one member later
      have hlater := ih (acc.insert name a)
      rw [hinsert, List.append_assoc, List.singleton_append] at hlater
      rw [List.map_cons, Node.ofMembers, Decoder.entries]
      simp only [Key.read, hread, bind, Except.bind]
      exact hlater hsorted hrest

theorem dict_ofMembers (encode : α → Value) (dict : Dict α)
    (h : ∀ e ∈ dict.entries, d none (.ofValue (encode e.2)) = .ok e.2) :
    Decoder.dict d none (.ofValue (.object (dict.entries.map fun e => (e.1, encode e.2)))) =
      .ok dict := by
  have hread := entries_ofMembers Dict.empty dict.sorted h
  rw [Node.ofValue, Decoder.dict]
  cases hentries : Decoder.entries d none
      (Node.ofMembers (dict.entries.map fun e => (e.1, encode e.2))) .empty with
  | error cause =>
      rw [hentries] at hread
      cases hread
  | ok found =>
      rw [hentries] at hread
      have hsame : found.entries = dict.entries := Except.ok.inj hread
      simp only [Node.enter, bind, Except.bind, hentries, Dict.eq_of_entries hsame]
      rfl

theorem reads_dict {encode : α → Value} (dict : Dict α)
    (h : ∀ e ∈ dict.entries, d.Reads (encode e.2) e.2) :
    (Decoder.dict d).Reads (.object (dict.entries.map fun e => (e.1, encode e.2))) dict := by
  intro sorted
  have hsorted : Entries.Sorted (dict.entries.map fun e => (e.1, encode e.2)) :=
    List.pairwise_map.mpr dict.sorted
  rw [Value.arranged_of_sorted hsorted, List.map_map]
  exact dict_ofMembers (Value.arranged sorted ∘ encode) dict fun e he => h e he sorted

end Decoder

/-! ## Free JSON -/

mutual

theorem toValue_ofValue : (v : Value) → v.isCanonical = true →
    Node.toValue none (.ofValue v) = .ok v
  | .null, _ | .bool _, _ | .int _, _ | .string _, _ => rfl
  | .float x, h => by
      have hfinite : x.isFinite = true := h
      rw [Node.ofValue, if_pos hfinite]
      rfl
  | .array items, h => by
      have hitems := toItems_ofItems items h
      rw [Node.ofValue, Node.toValue]
      simp only [Node.enter, bind, Except.bind, hitems]
      rfl
  | .object members, h => by
      rw [Value.isCanonical_object] at h
      have hmembers := toMembers_ofMembers members [] h.1 h.2
      rw [Node.ofValue, Node.toValue]
      simp only [Node.enter, bind, Except.bind, hmembers]
      rfl

theorem toItems_ofItems : (items : List Value) → Value.areCanonical items = true →
    Node.toItems none (Node.ofItems items) = .ok items
  | [], _ => rfl
  | item :: rest, h => by
      rw [Value.areCanonical, Bool.and_eq_true] at h
      have hitem := toValue_ofValue item h.1
      have hrest := toItems_ofItems rest h.2
      rw [Node.ofItems, Node.toItems]
      simp only [bind, Except.bind, hitem, hrest]

theorem toMembers_ofMembers : (members acc : List (String × Value)) →
    Entries.Sorted (acc ++ members) → Value.membersCanonical members = true →
    Node.toMembers none (Node.ofMembers members) acc = .ok (acc ++ members)
  | [], acc, _, _ => by
      rw [List.append_nil]
      rfl
  | (name, value) :: rest, acc, hsorted, h => by
      rw [Value.membersCanonical, Bool.and_eq_true] at h
      have hvalue := toValue_ofValue value h.1
      have hrest := toMembers_ofMembers rest (acc ++ [(name, value)])
        (by rwa [List.append_assoc, List.singleton_append]) h.2
      rw [Node.ofMembers, Node.toMembers]
      simp only [Key.read, bind, Except.bind, hvalue, Entries.insert_of_sorted hsorted]
      rw [hrest, List.append_assoc, List.singleton_append]

end

theorem Object.eq_of_members {o p : Object} (h : o.members = p.members) : o = p := by
  cases o
  cases p
  cases h
  rfl

theorem Object.canonicalized (o : Object) : Object.ofMembers o.members = o := by
  have h := Value.canonicalize_of_canonical (.object o.members) o.canonical
  rw [Value.canonicalize, Value.object.injEq] at h
  exact eq_of_members h

theorem Decoder.reads_object (o : Object) : Decoder.object.Reads o.toValue o := by
  have h := o.canonical
  rw [Value.isCanonical_object] at h
  have hmembers := toMembers_ofMembers o.members [] h.1 h.2
  refine .of_canonical o.canonical ?_
  rw [Object.toValue, Node.ofValue, Decoder.object]
  simp only [Node.enter, bind, Except.bind, hmembers, List.nil_append, o.canonicalized]
  rfl

end AgentSessions.Json
