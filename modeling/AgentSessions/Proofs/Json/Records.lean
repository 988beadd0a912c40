import AgentSessions.Proofs.Json.Values

/-!
# Reading back records

A record is written field by field in the order of declaration, and some fields are left out. It is
read back when every field is: one that is written by its decoder, and one that is left out by what
its absence means (`Record.Reads`). The fields of a record are described one by one, so this is
shown field by field too (`Record.Reads.seq`), once for each of the ways in which a field is
written; a record whose fields have different names is then read back as a whole
(`Record.Reads.decoder`). It is read by look-ups, so it does not matter whether its members were
sorted in between, or whether members under other names stand among them
(`Record.Reads.decoder_ofMembers`).
-/

set_option autoImplicit false

namespace AgentSessions.Json

variable {α β : Type}

/-! ## Look-ups -/

theorem Node.member?_ofMembers (name : String) (members : List (String × Value)) :
    Node.member? name (Node.ofMembers members) =
      (Entries.get? name members).map Node.ofValue := by
  induction members with
  | nil => rfl
  | cons head rest ih =>
      obtain ⟨k, v⟩ := head
      rw [Node.ofMembers, Node.member?, Entries.get?, ih]
      by_cases hkey : name = k
      · rw [if_pos (congrArg Key.sound hkey.symm), if_pos hkey]
        rfl
      · rw [if_neg (fun hsame => hkey (Key.sound.inj hsame).symm), if_neg hkey]

/-! ## Going past values -/

mutual

theorem Node.skip_ofValue : (v : Value) → (ofValue v).skip = .ok ()
  | .null | .bool _ | .int _ | .string _ => rfl
  | .float x => by
      rw [ofValue]
      split <;> rfl
  | .array items => by
      rw [ofValue, skip, skipItems_ofItems items]
      rfl
  | .object members => by
      rw [ofValue, skip, skipMembers_ofMembers members]
      rfl

theorem Node.skipItems_ofItems : (items : List Value) → skipItems (ofItems items) = .ok ()
  | [] => rfl
  | item :: rest => by
      rw [ofItems, skipItems, skip_ofValue item]
      exact skipItems_ofItems rest

theorem Node.skipMembers_ofMembers :
    (members : List (String × Value)) → skipMembers (ofMembers members) = .ok ()
  | [] => rfl
  | (_, value) :: rest => by
      rw [ofMembers, skipMembers, skip_ofValue value]
      exact skipMembers_ofMembers rest

end

namespace Record

/-! ## Fields -/

/-- The record reads the written fields as this: each that is there is checked under its own name,
and whatever finds those that are there, and no others, builds the record. -/
structure Reads (r : Record α) (written : List (Option (String × Value))) (a : α) : Prop where
  length : r.fields.length = written.length
  checks : ∀ p ∈ r.fields.zip written, ∀ e, p.2 = some e → e.1 = p.1.1 ∧ p.1.2.Reads e.2 ()
  build : ∀ (sorted : Bool) (find : String → Option Node),
    (∀ p ∈ r.fields.zip written, find p.1.1 = p.2.map fun e => .ofValue (e.2.arranged sorted)) →
      r.build none .named find = .ok a

theorem Reads.map {r : Record α} {written : List (Option (String × Value))} {a : α}
    (h : r.Reads written a) (f : α → β) : (f <$> r).Reads written (f a) where
  length := h.length
  checks := h.checks
  build sorted find hfind := by
    show (r.build none .named find).map f = _
    rw [h.build sorted find hfind]
    rfl

/-- The fields of one record behind those of another one. -/
theorem Reads.seq {g : Record (α → β)} {r : Record α}
    {written written' : List (Option (String × Value))} {f : α → β} {a : α}
    (hg : g.Reads written f) (hr : r.Reads written' a) :
    (g <*> r).Reads (written ++ written') (f a) := by
  have hfields : (g <*> r).fields.zip (written ++ written') =
      g.fields.zip written ++ r.fields.zip written' := List.zip_append hg.length
  refine ⟨?_, fun p hp => ?_, fun sorted find hfind => ?_⟩
  · show (g.fields ++ r.fields).length = _
    rw [List.length_append, List.length_append, hg.length, hr.length]
  · rw [hfields] at hp
    exact (List.mem_append.mp hp).elim (hg.checks p) (hr.checks p)
  · rw [hfields] at hfind
    have hf := hg.build sorted find fun p hp => hfind p (List.mem_append_left _ hp)
    have ha := hr.build sorted find fun p hp => hfind p (List.mem_append_right _ hp)
    show (do let f ← g.build none .named find; let a ← r.build none .named find; .ok (f a)) = _
    rw [hf, ha]
    rfl

/-- A record without fields. -/
theorem reads_pure (a : α) : (pure a : Record α).Reads [] a where
  length := rfl
  checks _ hp := absurd hp List.not_mem_nil
  build _ _ _ := rfl

variable {d : Decoder α} {a : α} {name : String} {v : Value}

/-- One field, whether it is written or not. -/
theorem reads_fieldOr {absent : Layout → Except Cause α} {field : Option (String × Value)}
    (hwritten : ∀ e, field = some e → e.1 = name ∧ d.Reads e.2 a)
    (habsent : field = none → absent .named = .ok a) :
    (fieldOr name d absent).Reads [field] a := by
  refine ⟨rfl, fun p hp e he => ?_, fun sorted find hfind => ?_⟩
  · obtain rfl := List.mem_singleton.mp hp
    exact ⟨(hwritten e he).1, (hwritten e he).2.map fun _ => ()⟩
  · have hfound : find name = field.map fun e => .ofValue (e.2.arranged sorted) :=
      hfind _ (List.mem_singleton.mpr rfl)
    cases field with
    | none =>
        simp only [fieldOr, hfound, Option.map_none]
        exact habsent rfl
    | some e =>
        simp only [fieldOr, hfound, Option.map_some]
        exact (hwritten e rfl).2 sorted

/-- A field that is always there. -/
theorem reads_field (name : String) (h : d.Reads v a) :
    (field name d).Reads [Value.field name v] a :=
  reads_fieldOr (fun _ he => Option.some.inj he ▸ ⟨rfl, h⟩) fun hnone => nomatch hnone

/-- A field with a default that is always written. -/
theorem reads_withDefault (name : String) (h : d.Reads v a) (default : α) :
    (withDefault name d default).Reads [Value.field name v] a :=
  reads_fieldOr (fun _ he => Option.some.inj he ▸ ⟨rfl, h⟩) fun hnone => nomatch hnone

/-- A field that is left out where it has its default. -/
theorem reads_fieldIf (name : String) (shown : Bool) (default : α) (h : d.Reads v a)
    (hdefault : shown = false → a = default) :
    (withDefault name d default).Reads [Value.fieldIf shown name v] a := by
  refine reads_fieldOr (fun e he => ?_) fun hnone => ?_
  · cases shown with
    | false => cases he
    | true =>
        cases he
        exact ⟨rfl, h⟩
  · cases shown with
    | false => rw [hdefault rfl]
    | true => cases hnone

/-- A truth value that is left out where it is false. -/
theorem reads_flag (name : String) (b : Bool) :
    (withDefault name Decoder.bool false).Reads [Value.fieldIf b name (.bool b)] b :=
  reads_fieldIf name b false (Decoder.reads_bool b) id

/-- A field that is left out when it has no value, and whose absence means the same. -/
theorem reads_optionalOr (name : String) {absent : Layout → Except Cause (Option α)}
    (habsent : absent .named = .ok none) {encode : α → Value} {o : Option α}
    (h : ∀ a, o = some a → d.Reads (encode a) a) (hshown : ∀ a, (encode a).IsShown) :
    (fieldOr name (Decoder.nullable d) absent).Reads [Value.optional name encode o] o := by
  cases o with
  | none => exact reads_fieldOr (fun _ he => nomatch he) fun _ => habsent
  | some a =>
      exact reads_fieldOr (fun _ he => Option.some.inj he ▸ ⟨rfl, (h a rfl).nullable (hshown a)⟩)
        fun hnone => nomatch hnone

theorem reads_optional (name : String) {encode : α → Value} {o : Option α}
    (h : ∀ a, o = some a → d.Reads (encode a) a) (hshown : ∀ a, (encode a).IsShown) :
    (optional name d).Reads [Value.optional name encode o] o :=
  reads_optionalOr name rfl h hshown

theorem reads_optionalText (name : String) (text : Option String) :
    (optional name Decoder.string).Reads [Value.optional name Value.string text] text :=
  reads_optional name (fun s _ => Decoder.reads_string s) Decoder.isShown_string

theorem reads_optionalDefault (name : String) {encode : α → Value} {o : Option α}
    (h : ∀ a, o = some a → d.Reads (encode a) a) (hshown : ∀ a, (encode a).IsShown) :
    (withDefault name (Decoder.nullable d) none).Reads [Value.optional name encode o] o :=
  reads_optionalOr name rfl h hshown

/-! ## Records -/

variable {fields : List (String × Decoder Unit)} {written : List (Option (String × Value))}

/-- What is written stands under names of fields, in their order. -/
theorem sublist_names (hlength : fields.length = written.length)
    (hnamed : ∀ p ∈ fields.zip written, ∀ e, p.2 = some e → e.1 = p.1.1) :
    ((written.filterMap id).map Prod.fst).Sublist (fields.map Prod.fst) := by
  induction fields generalizing written with
  | nil =>
      obtain rfl := List.eq_nil_of_length_eq_zero hlength.symm
      exact List.Sublist.refl _
  | cons head rest ih =>
      cases written with
      | nil => cases hlength
      | cons field others =>
          rw [List.zip_cons_cons, List.forall_mem_cons] at hnamed
          have hrest := ih (Nat.succ.inj hlength) hnamed.2
          -- a field that is left out only makes the list of names shorter
          cases field with
          | none => exact hrest.cons _
          | some e =>
              rw [List.filterMap_cons_some (f := id) (a := some e) rfl, List.map_cons,
                List.map_cons, hnamed.1 e rfl]
              exact hrest.cons_cons _

/-- A look-up finds what is written of each field. -/
theorem get?_written (hlength : fields.length = written.length)
    (hnamed : ∀ p ∈ fields.zip written, ∀ e, p.2 = some e → e.1 = p.1.1)
    (hnames : (fields.map Prod.fst).Nodup) :
    ∀ p ∈ fields.zip written, Entries.get? p.1.1 (written.filterMap id) = p.2.map Prod.snd := by
  induction fields generalizing written with
  | nil => exact List.forall_mem_nil _
  | cons head rest ih =>
      cases written with
      | nil => cases hlength
      | cons field others =>
          rw [List.zip_cons_cons, List.forall_mem_cons] at hnamed ⊢
          rw [List.map_cons, List.nodup_cons] at hnames
          have hsublist := sublist_names (Nat.succ.inj hlength) hnamed.2
          have hrest := ih (Nat.succ.inj hlength) hnamed.2 hnames.2
          cases field with
          | none =>
              -- nothing behind the field has its name either
              exact ⟨Entries.get?_eq_none fun hmem => hnames.1 (hsublist.subset hmem), hrest⟩
          | some e =>
              rw [List.filterMap_cons_some (f := id) (a := some e) rfl]
              refine ⟨if_pos (hnamed.1 e rfl).symm, fun p hp => ?_⟩
              have hother : p.1.1 ≠ e.1 := by
                intro hsame
                refine hnames.1 ?_
                rw [← hnamed.1 e rfl, ← hsame]
                exact List.mem_map_of_mem (List.of_mem_zip hp).1
              exact (if_neg hother).trans (hrest p hp)

/-- Members under different names pass the check when those of fields do: the others are gone
past. -/
theorem checkMembers_ofMembers {members : List (String × Value)}
    (hdistinct : (members.map Prod.fst).Nodup)
    (hchecks : ∀ e ∈ members, ∀ check, Entries.get? e.1 fields = some check →
      check none (.ofValue e.2) = .ok ())
    {seen : List String} (hseen : ∀ e ∈ members, e.1 ∉ seen) :
    checkMembers fields none .closed (Node.ofMembers members) seen = .ok () := by
  induction members generalizing seen with
  | nil => rfl
  | cons head rest ih =>
      obtain ⟨name, v⟩ := head
      rw [List.map_cons, List.nodup_cons] at hdistinct
      obtain ⟨hcheck, hrest⟩ := List.forall_mem_cons.mp hchecks
      obtain ⟨hnew, hothers⟩ := List.forall_mem_cons.mp hseen
      rw [Node.ofMembers, checkMembers]
      cases hfound : Entries.get? name fields with
      | none =>
          simp only [Key.read, bind, Except.bind, hfound, Node.skip_ofValue]
          exact ih hdistinct.2 hrest hothers
      | some check =>
          -- the name joins those that were seen, and the rest has other names
          have hlater : ∀ e ∈ rest, e.1 ∉ name :: seen := by
            intro e he hin
            have hlisted : e.1 ∈ rest.map Prod.fst := List.mem_map_of_mem he
            rcases List.mem_cons.mp hin with hsame | hin
            · exact hdistinct.1 (hsame ▸ hlisted)
            · exact hothers e he hin
          simp only [Key.read, bind, Except.bind, hfound, if_neg hnew, hcheck check hfound]
          exact ih hdistinct.2 hrest hlater

/-- Something, or nothing, is written of every field. -/
theorem exists_written {field : String × Decoder Unit} (hlength : fields.length = written.length)
    (h : field ∈ fields) : ∃ p ∈ fields.zip written, p.1 = field := by
  obtain ⟨i, hi, rfl⟩ := List.getElem_of_mem h
  have hzip : i < (fields.zip written).length := by
    rw [List.length_zip, ← hlength, Nat.min_self]
    exact hi
  exact ⟨(fields.zip written)[i], List.getElem_mem hzip, by rw [List.getElem_zip]⟩

/-- A record is read from members with different names, in any order and with others between them,
when a look-up finds what is written of each of its fields. -/
theorem Reads.decoder_ofMembers {r : Record α} (h : r.Reads written a)
    {members : List (String × Value)} (hdistinct : (members.map Prod.fst).Nodup) (sorted : Bool)
    (hfind : ∀ p ∈ r.fields.zip written,
      Entries.get? p.1.1 members = p.2.map fun e => e.2.arranged sorted) :
    r.decoder none (.object (Node.ofMembers members) .closed) = .ok a := by
  have hchecks : ∀ e ∈ members, ∀ check, Entries.get? e.1 r.fields = some check →
      check none (.ofValue e.2) = .ok () := by
    intro e he check hcheck
    obtain ⟨p, hp, hfield⟩ := exists_written h.length (Entries.mem_of_get? hcheck)
    have hfound := hfind p hp
    rw [hfield, Entries.get?_of_mem hdistinct he] at hfound
    obtain ⟨field, hwritten, hvalue⟩ := Option.map_eq_some_iff.mp hfound.symm
    have hread := (h.checks p hp field hwritten).2 sorted
    rw [hfield, hvalue] at hread
    exact hread
  have hcheck := checkMembers_ofMembers hdistinct hchecks (fun _ _ => List.not_mem_nil)
  have hbuild := h.build sorted (fun name => Node.member? name (Node.ofMembers members)) <| by
    intro p hp
    rw [Node.member?_ofMembers, hfind p hp, Option.map_map]
    rfl
  rw [Record.decoder]
  simp only [Node.enter, bind, Except.bind, hcheck]
  exact hbuild

/-- A record is read back when each of its fields is. -/
theorem Reads.decoder {r : Record α} (h : r.Reads written a)
    (hnames : (r.fields.map Prod.fst).Nodup) : r.decoder.Reads (Value.record written) a := by
  intro sorted
  have hnamed : ∀ p ∈ r.fields.zip written, ∀ e, p.2 = some e → e.1 = p.1.1 :=
    fun p hp e he => (h.checks p hp e he).1
  obtain ⟨members, harranged, hdistinct, hsame⟩ :=
    Value.exists_members ((sublist_names h.length hnamed).nodup hnames) sorted
  rw [Value.record, harranged, Node.ofValue]
  refine h.decoder_ofMembers hdistinct sorted fun p hp => ?_
  rw [hsame, get?_written h.length hnamed hnames p hp, Option.map_map]
  rfl

end Record

end AgentSessions.Json
