namespace WireSchema

structure NameMap (α : Type) where
  entries : List (String × α) := []
deriving Repr

namespace NameMap

variable {α : Type}

def empty : NameMap α := {}

instance : Inhabited (NameMap α) := ⟨empty⟩

def get? (m : NameMap α) (name : String) : Option α :=
  m.entries.lookup name

def contains (m : NameMap α) (name : String) : Bool :=
  (m.get? name).isSome

def names (m : NameMap α) : List String :=
  m.entries.map (·.1)

def values (m : NameMap α) : List α :=
  m.entries.map (·.2)

def size (m : NameMap α) : Nat :=
  m.entries.length

def insertEntry (name : String) (value : α) : List (String × α) → List (String × α)
  | [] => [(name, value)]
  | (n, v) :: rest =>
    if n = name then (name, value) :: rest
    else if name < n then (name, value) :: (n, v) :: rest
    else (n, v) :: insertEntry name value rest

def insert (m : NameMap α) (name : String) (value : α) : NameMap α :=
  ⟨insertEntry name value m.entries⟩

def erase (m : NameMap α) (name : String) : NameMap α :=
  ⟨m.entries.filter (·.1 != name)⟩

theorem lookup_insertEntry (name key : String) (value : α) (entries : List (String × α)) :
    (insertEntry name value entries).lookup key =
      if key = name then some value else entries.lookup key := by
  induction entries with
  | nil => by_cases h : key = name <;> simp [insertEntry, List.lookup_cons, h, beq_false_of_ne]
  | cons e rest ih =>
    obtain ⟨n, v⟩ := e
    by_cases hn : n = name
    · by_cases hk : key = name <;> simp [insertEntry, List.lookup_cons, hn, hk, beq_false_of_ne]
    · by_cases hl : name < n
      · by_cases hk : key = name <;>
          simp [insertEntry, List.lookup_cons, hn, hl, hk, beq_false_of_ne]
      · by_cases hk : key = n
        · have : n ≠ name := hn
          simp [insertEntry, hn, hl, hk]
        · simp [insertEntry, List.lookup_cons, hn, hl, hk, beq_false_of_ne, ih]

theorem mem_insertEntry {name : String} {value : α} {entries : List (String × α)}
    {e : String × α} (member : e ∈ insertEntry name value entries) :
    e = (name, value) ∨ e ∈ entries := by
  induction entries with
  | nil => simpa [insertEntry] using member
  | cons first rest ih =>
    unfold insertEntry at member
    split at member
    · simp only [List.mem_cons] at member ⊢
      exact member.imp_right .inr
    · split at member
      · simpa using member
      · rcases List.mem_cons.mp member with rfl | later
        · exact .inr (List.mem_cons_self ..)
        · exact (ih later).imp_right (List.mem_cons_of_mem _)

@[simp]
theorem get?_insert (m : NameMap α) (name key : String) (value : α) :
    (m.insert name value).get? key = if key = name then some value else m.get? key :=
  lookup_insertEntry name key value m.entries

theorem get?_erase (m : NameMap α) (name key : String) :
    (m.erase name).get? key = if key = name then none else m.get? key := by
  obtain ⟨entries⟩ := m
  show (entries.filter (·.1 != name)).lookup key = if key = name then none else entries.lookup key
  induction entries with
  | nil => simp
  | cons e rest ih =>
    obtain ⟨n, v⟩ := e
    by_cases hn : n = name
    · rw [List.filter_cons_of_neg (by simp [hn]), ih]
      by_cases hk : key = name <;> simp [List.lookup_cons, hn, hk, beq_false_of_ne]
    · rw [List.filter_cons_of_pos (by simp [hn])]
      by_cases hk : key = n
      · simp [hn, hk]
      · simp [List.lookup_cons, beq_false_of_ne hk, ih]

theorem contains_iff {m : NameMap α} {name : String} :
    m.contains name = true ↔ name ∈ m.names := by
  rw [contains, get?, List.lookup_isSome_iff, names, List.mem_map]
  simp only [beq_iff_eq, @eq_comm _ name]

theorem get?_eq_none_iff {m : NameMap α} {name : String} :
    m.get? name = none ↔ name ∉ m.names := by
  rw [← contains_iff, contains, Bool.not_eq_true, Option.isSome_eq_false_iff,
    Option.isNone_iff_eq_none]

theorem mem_of_get? {m : NameMap α} {name : String} {value : α}
    (found : m.get? name = some value) : (name, value) ∈ m.entries := by
  obtain ⟨before, after, parts, -⟩ := List.lookup_eq_some_iff.mp found
  simp [parts]

theorem mem_names_insert {m : NameMap α} {name key : String} {value : α} :
    key ∈ (m.insert name value).names ↔ key = name ∨ key ∈ m.names := by
  rw [← contains_iff, ← contains_iff, contains, contains, get?_insert]
  by_cases h : key = name <;> simp [h]

def Ascending (m : NameMap α) : Prop :=
  m.names.Pairwise (· < ·)

theorem ascending_empty : (empty : NameMap α).Ascending :=
  .nil

theorem Ascending.insert {m : NameMap α} (ascending : m.Ascending) (name : String) (value : α) :
    (m.insert name value).Ascending := by
  obtain ⟨entries⟩ := m
  show ((insertEntry name value entries).map (·.1)).Pairwise (· < ·)
  induction entries with
  | nil => simp [insertEntry]
  | cons e rest ih =>
    obtain ⟨n, v⟩ := e
    obtain ⟨above, rising⟩ := List.pairwise_cons.mp ascending
    unfold insertEntry
    split
    · rename_i same
      subst same
      exact ascending
    · rename_i other
      split
      · rename_i less
        refine List.pairwise_cons.mpr ⟨?_, ascending⟩
        intro key member
        rcases List.mem_cons.mp member with rfl | later
        · exact less
        · exact String.lt_trans less (above key later)
      · rename_i notLess
        refine List.pairwise_cons.mpr ⟨?_, ih rising⟩
        intro key member
        rcases (mem_names_insert (m := ⟨rest⟩)).mp member with rfl | later
        · exact String.not_le.mp fun le => other (String.le_antisymm (String.not_lt.mp notLess) le)
        · exact above key later

theorem insertEntry_perm {name : String} {value : α} {entries : List (String × α)}
    (absent : name ∉ entries.map (·.1)) :
    (insertEntry name value entries).Perm ((name, value) :: entries) := by
  induction entries with
  | nil => exact .refl _
  | cons e rest ih =>
    obtain ⟨other, later⟩ := not_or.mp (mt List.mem_cons.mpr absent)
    unfold insertEntry
    rw [if_neg (Ne.symm other)]
    split
    · exact .refl _
    · exact ((ih later).cons e).trans (.swap ..)

theorem map_insertEntry {β : Type} {f : String × α → β} {name : String} {old value : α}
    {entries : List (String × α)} (ascending : (entries.map (·.1)).Pairwise (· < ·))
    (found : entries.lookup name = some old) (same : f (name, value) = f (name, old)) :
    (insertEntry name value entries).map f = entries.map f := by
  induction entries with
  | nil => cases found
  | cons e rest ih =>
    obtain ⟨n, v⟩ := e
    obtain ⟨above, rising⟩ := List.pairwise_cons.mp ascending
    unfold insertEntry
    split
    · rename_i here
      subst here
      have first : v = old := by simpa using found
      simp [same, first]
    · rename_i other
      have behind : rest.lookup name = some old := by
        simpa [List.lookup_cons, beq_false_of_ne (Ne.symm other)] using found
      have less : n < name :=
        above name (List.mem_map_of_mem (mem_of_get? (m := ⟨rest⟩) behind))
      rw [if_neg (String.lt_asymm less), List.map_cons, List.map_cons, ih rising behind]

theorem Ascending.get?_of_mem {m : NameMap α} (ascending : m.Ascending) {name : String} {value : α}
    (member : (name, value) ∈ m.entries) : m.get? name = some value := by
  obtain ⟨entries⟩ := m
  show entries.lookup name = some value
  induction entries with
  | nil => cases member
  | cons e rest ih =>
    obtain ⟨above, rising⟩ := List.pairwise_cons.mp ascending
    rcases List.mem_cons.mp member with rfl | later
    · simp
    · have less : e.1 < name := above name (List.mem_map_of_mem later)
      have other : name ≠ e.1 := fun same => String.lt_irrefl _ (same ▸ less)
      rw [List.lookup_cons, beq_false_of_ne other]
      exact ih rising later

end NameMap

end WireSchema
