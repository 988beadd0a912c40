/-!
# Dictionaries with text keys

A dictionary is a list of entries whose keys strictly increase, so two dictionaries with the same
entries are the same list and every listing of a dictionary is in key order. The functions on plain
entry lists (`Entries.insert`, `Entries.get?`, …) carry the work; `Dict` packs a list with the
proof that it is sorted.
-/

set_option autoImplicit false

namespace AgentSessions

namespace Entries

variable {α : Type}

/-- The keys of the entries strictly increase. -/
def Sorted (entries : List (String × α)) : Prop :=
  entries.Pairwise fun a b => a.1 < b.1

instance (entries : List (String × α)) : Decidable (Sorted entries) :=
  inferInstanceAs (Decidable (List.Pairwise _ _))

/-- The entries with `key` bound to `value`, in place of its former value if it has one. -/
def insert (key : String) (value : α) : List (String × α) → List (String × α)
  | [] => [(key, value)]
  | (k, v) :: rest =>
      if key = k then (key, value) :: rest
      else if key < k then (key, value) :: (k, v) :: rest
      else (k, v) :: insert key value rest

def get? (key : String) : List (String × α) → Option α
  | [] => none
  | (k, v) :: rest => if key = k then some v else get? key rest

def erase (key : String) (entries : List (String × α)) : List (String × α) :=
  entries.filter fun e => e.1 ≠ key

theorem mem_insert {key : String} {value : α} {entries : List (String × α)} {e : String × α}
    (h : e ∈ insert key value entries) : e = (key, value) ∨ e ∈ entries := by
  induction entries with
  | nil => simpa [insert] using h
  | cons head rest ih =>
      obtain ⟨k, v⟩ := head
      by_cases h1 : key = k
      · simp [insert, h1] at h
        rcases h with h | h
        · exact Or.inl (by simp [h, h1])
        · exact Or.inr (by simp [h])
      · by_cases h2 : key < k
        · simp [insert, h1, h2] at h
          rcases h with h | h | h
          · exact Or.inl h
          · exact Or.inr (by simp [h])
          · exact Or.inr (by simp [h])
        · simp [insert, h1, h2] at h
          rcases h with h | h
          · exact Or.inr (by simp [h])
          · rcases ih h with h | h
            · exact Or.inl h
            · exact Or.inr (by simp [h])

theorem sorted_insert (key : String) (value : α) {entries : List (String × α)}
    (h : Sorted entries) : Sorted (insert key value entries) := by
  induction entries with
  | nil => simp [insert, Sorted]
  | cons head rest ih =>
      obtain ⟨k, v⟩ := head
      obtain ⟨hhead, hrest⟩ := List.pairwise_cons.mp h
      by_cases h1 : key = k
      · subst h1
        rw [insert, if_pos rfl]
        exact List.pairwise_cons.mpr ⟨hhead, hrest⟩
      · by_cases h2 : key < k
        · rw [insert, if_neg h1, if_pos h2]
          refine List.pairwise_cons.mpr ⟨fun e he => ?_, h⟩
          rcases List.mem_cons.mp he with he | he
          · subst he; exact h2
          · exact String.lt_trans h2 (hhead e he)
        · rw [insert, if_neg h1, if_neg h2]
          refine List.pairwise_cons.mpr ⟨fun e he => ?_, ih hrest⟩
          rcases mem_insert he with he | he
          · subst he
            exact Std.lt_of_le_of_ne (String.not_lt.mp h2) (Ne.symm h1)
          · exact hhead e he

theorem sorted_erase (key : String) {entries : List (String × α)} (h : Sorted entries) :
    Sorted (erase key entries) :=
  List.Pairwise.filter _ h

end Entries

/-- A dictionary: entries sorted by key, each key once. -/
structure Dict (α : Type) where
  entries : List (String × α)
  sorted : Entries.Sorted entries
  deriving DecidableEq

namespace Dict

variable {α β : Type}

def empty : Dict α := ⟨[], List.Pairwise.nil⟩

instance : EmptyCollection (Dict α) := ⟨empty⟩

instance : Inhabited (Dict α) := ⟨empty⟩

def insert (d : Dict α) (key : String) (value : α) : Dict α :=
  ⟨Entries.insert key value d.entries, Entries.sorted_insert key value d.sorted⟩

def erase (d : Dict α) (key : String) : Dict α :=
  ⟨Entries.erase key d.entries, Entries.sorted_erase key d.sorted⟩

def get? (d : Dict α) (key : String) : Option α :=
  Entries.get? key d.entries

def contains (d : Dict α) (key : String) : Bool :=
  (d.get? key).isSome

def keys (d : Dict α) : List String :=
  d.entries.map (·.1)

def values (d : Dict α) : List α :=
  d.entries.map (·.2)

def size (d : Dict α) : Nat :=
  d.entries.length

def isEmpty (d : Dict α) : Bool :=
  d.entries.isEmpty

/-- The dictionary of a list of entries; of two entries with one key the later counts. -/
def ofList (entries : List (String × α)) : Dict α :=
  entries.foldl (fun d e => d.insert e.1 e.2) empty

def filterKeys (d : Dict α) (test : String → Bool) : Dict α :=
  ⟨d.entries.filter fun e => test e.1, List.Pairwise.filter _ d.sorted⟩

/-- Changes the value of `key`, or binds it when it has none. -/
def alter (d : Dict α) (key : String) (change : Option α → α) : Dict α :=
  d.insert key (change (d.get? key))

end Dict

end AgentSessions
