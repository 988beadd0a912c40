import AgentSessions.Proofs.Dict
import AgentSessions.Store.File

/-!
# What a save leaves of a directory

A save touches two names: the file of its session, and the temporary one. One that fails leaves
every other name as it was, and the file of its session too; one that succeeds puts the snapshot
there (`saveUnless_cases`). Temporary names end unlike names of files, and two sessions never share
a name, so no session sees another one's save.
-/

set_option autoImplicit false

namespace AgentSessions

/-! ## Look-ups -/

namespace Directory

variable {d d' : Directory} {name source target : String}

@[simp] theorem get?_ensure (d : Directory) (name : String) :
    (ensure d).get? name = d.get? name := by
  cases d with
  | none => rfl
  | some entries => rfl

/-- What a name stands for after a file was put in the place of another name. -/
theorem get?_insert (entries : Dict DirEntry) (name other : String) (content : ByteArray) :
    Directory.get? (some (entries.insert name (.file content))) other =
      if other = name then some (.file content) else Directory.get? (some entries) other :=
  entries.get?_insert name other _

/-- Only a name that is not too long is written, and only that one changes. -/
theorem write?_eq_some {content : ByteArray} (h : write? d name content = some d') :
    d.allows name = true ∧
      ∀ other, d'.get? other = if other = name then some (.file content) else d.get? other := by
  unfold write? at h
  split at h
  · cases h
  · split at h
    · cases h
    · split at h
      · rename_i hallows
        cases h
        exact ⟨hallows, fun other => get?_insert _ _ _ _⟩
      · cases h

/-- A file that is moved stands in the new place, and no longer in the old one. -/
theorem rename?_eq_some (h : rename? d source target = some d') :
    ∃ content, d.get? source = some (.file content) ∧
      ∀ other, d'.get? other = if other = target then some (.file content)
        else if other = source then none else d.get? other := by
  unfold rename? at h
  split at h
  · cases h
  · rename_i entries
    split at h
    · cases h
    · rename_i content hsource htarget
      cases h
      refine ⟨content, hsource, fun other => ?_⟩
      rw [get?_insert]
      split
      · rfl
      · exact entries.get?_erase source other
    · cases h

end Directory

namespace FileStore

/-! ## Names -/

theorem fileName_injective {id id' : SessionId} (h : fileName id = fileName id') : id = id' := by
  have htext : id.text = id'.text := (String.append_left_inj ".json").mp h
  rw [SessionId.mk.injEq, htext]

theorem fileName_ne_temporaryName (id id' : SessionId) : fileName id ≠ temporaryName id' := by
  intro h
  have hlast := congrArg (fun name => name.toList.getLast?) h
  simp [fileName, temporaryName] at hlast

/-! ## Steps of a save -/

/-- Nothing but one name changes, if anything does. -/
def Spares (name : String) (d d' : Directory) : Prop :=
  ∀ other, other ≠ name → d'.get? other = d.get? other

theorem Spares.refl (name : String) (d : Directory) : Spares name d d :=
  fun _ _ => rfl

theorem Spares.trans {name : String} {d d' d'' : Directory} (h : Spares name d d')
    (h' : Spares name d' d'') : Spares name d d'' :=
  fun other hother => (h' other hother).trans (h other hother)

theorem spares_ensure (name : String) (d : Directory) : Spares name d (Directory.ensure d) :=
  fun other _ => d.get?_ensure other

theorem spares_write? {d d' : Directory} {name : String} {content : ByteArray}
    (h : Directory.write? d name content = some d') : Spares name d d' := by
  intro other hother
  rw [(Directory.write?_eq_some h).2, if_neg hother]

/-- Whatever the medium does to a file that is written, nothing else changes; and what was written
is there. -/
theorem writeUnless_cases (fault : Option SaveFault) (d : Directory) (name : String)
    (content : ByteArray) :
    Spares name d (writeUnless fault d name content).2 ∧
      ((writeUnless fault d name content).1 = true → d.allows name = true ∧
        (writeUnless fault d name content).2.get? name = some (.file content)) := by
  unfold writeUnless
  split
  · exact ⟨.refl _ _, fun h => nomatch h⟩
  · rename_i left
    refine ⟨?_, fun h => nomatch h⟩
    cases hwrite : Directory.write? d name left with
    | none => exact .refl _ _
    | some d' => exact spares_write? hwrite
  · cases hwrite : Directory.write? d name content with
    | none => exact ⟨.refl _ _, fun h => nomatch h⟩
    | some d' =>
        obtain ⟨hallows, hget⟩ := Directory.write?_eq_some hwrite
        exact ⟨spares_write? hwrite, fun _ => ⟨hallows, (hget name).trans (if_pos rfl)⟩⟩

/-- What a save does. -/
inductive Saves (d : Directory) (id : SessionId) (snapshot : Snapshot) :
    Except StoreError Unit × Directory → Prop where
  /-- A session that cannot have a file is refused at once. -/
  | refused : isUsable id = false → Saves d id snapshot (.error (refusal id), d)
  /-- The medium has failed, and nothing but the temporary file may have changed. -/
  | failed {d' : Directory} : isUsable id = true → Spares (temporaryName id) d d' →
      Saves d id snapshot (.error failed, d')
  /-- The snapshot is in the file of the session, and nothing else has changed but the temporary
  file. -/
  | done {d' : Directory} : isUsable id = true →
      (Directory.ensure d).allows (temporaryName id) = true →
      d'.get? (fileName id) = some (.file snapshot.encode.pretty.toUTF8) →
      (∀ other, other ≠ fileName id → other ≠ temporaryName id → d'.get? other = d.get? other) →
      Saves d id snapshot (.ok (), d')

theorem saves_saveUnless (fault : Option SaveFault) (d : Directory) (id : SessionId)
    (snapshot : Snapshot) : Saves d id snapshot (saveUnless fault d id snapshot) := by
  unfold saveUnless
  cases husable : isUsable id with
  | false => exact .refused husable
  | true =>
      rw [if_neg (by decide)]
      -- from here on the fault decides how far the save comes, and it leaves the other files alone
      split
      · rw [if_pos rfl]
        exact .failed husable (.refl _ _)
      · rw [if_neg Bool.false_ne_true]
        obtain ⟨hspares, hwritten⟩ := writeUnless_cases fault (Directory.ensure d)
          (temporaryName id) snapshot.encode.pretty.toUTF8
        have hspared := (spares_ensure (temporaryName id) d).trans hspares
        generalize writeUnless fault (Directory.ensure d) (temporaryName id)
          snapshot.encode.pretty.toUTF8 = written at hwritten hspared ⊢
        obtain ⟨complete, d'⟩ := written
        cases complete with
        | false => exact .failed husable hspared
        | true =>
            obtain ⟨hallows, htemporary⟩ := hwritten rfl
            dsimp only at htemporary hspared ⊢
            split
            · rw [if_pos rfl]
              exact .failed husable hspared
            · rw [if_neg Bool.false_ne_true]
              cases hrename : Directory.rename? d' (temporaryName id) (fileName id) with
              | none => exact .failed husable hspared
              | some d'' =>
                  obtain ⟨content, hcontent, hget⟩ := Directory.rename?_eq_some hrename
                  obtain rfl : content = snapshot.encode.pretty.toUTF8 := by
                    rw [htemporary] at hcontent
                    cases hcontent
                    rfl
                  refine .done husable hallows ((hget _).trans (if_pos rfl)) ?_
                  intro other hfile hother
                  rw [hget, if_neg hfile, if_neg hother, hspared other hother]

end FileStore

end AgentSessions
