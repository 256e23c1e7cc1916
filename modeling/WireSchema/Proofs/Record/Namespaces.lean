import WireSchema.Record.Namespace
import Mathlib.Data.List.TakeWhile

namespace WireSchema.Record.Namespace

-- A text is read as a name exactly when it is the text of that name or, for a database alone, the
-- database with a dot behind it.

-- The first dot in the text of such a name stands behind the database.
structure Divisible (n : Namespace) : Prop where
  named : n.db ≠ ""
  undotted : '.' ∉ n.db.toList

section

variable {text : String} {db rest : List Char} {n : Namespace}

theorem takeWhile_undotted (undotted : '.' ∉ db) (ends : ∀ c ∈ rest.head?, c = '.') :
    (db ++ rest).takeWhile (· != '.') = db ∧ (db ++ rest).dropWhile (· != '.') = rest := by
  have inside : ∀ c ∈ db, (c != '.') = true := by
    intro c member
    simpa using ne_of_mem_of_not_mem member undotted
  have stops : rest.takeWhile (· != '.') = [] ∧ rest.dropWhile (· != '.') = rest := by
    cases rest with
    | nil => exact ⟨rfl, rfl⟩
    | cons c _ => simp [ends c rfl]
  rw [List.takeWhile_append_of_pos inside, List.dropWhile_append_of_pos inside, stops.1, stops.2]
  exact ⟨List.append_nil _, rfl⟩

theorem ofText_parts (read : ofText text = .ok n) :
    n.Divisible ∧ ∃ rest, text.toList = n.db.toList ++ rest ∧ (∀ c ∈ rest.head?, c = '.') ∧
      n.coll.toList = rest.drop 1 := by
  unfold ofText at read
  simp only at read
  split at read
  · cases read
  · rename_i named
    cases read
    refine ⟨⟨?_, ?_⟩, text.toList.dropWhile (· != '.'), ?_, ?_, ?_⟩
    · intro none
      exact named (by simpa using congrArg String.toList none)
    · rw [String.toList_ofList]
      intro member
      exact absurd (List.mem_takeWhile_imp member) (by decide)
    · rw [String.toList_ofList, List.takeWhile_append_dropWhile]
    · intro c first
      have stops := List.head?_dropWhile_not (· != '.') text.toList
      rw [first] at stops
      simpa using stops
    · rw [String.toList_ofList]

theorem ofText_divides (divisible : n.Divisible) (parts : text.toList = n.db.toList ++ rest)
    (ends : ∀ c ∈ rest.head?, c = '.') (coll : n.coll.toList = rest.drop 1) :
    ofText text = .ok n := by
  obtain ⟨front, back⟩ := takeWhile_undotted divisible.undotted ends
  have named : n.db.toList.isEmpty = false := by
    simpa using divisible.named
  unfold ofText
  simp only [parts, front, back, named, ← coll, String.ofList_toList]
  rfl

theorem text_toList (n : Namespace) :
    n.text.toList = n.db.toList ++ (if n.coll = "" then [] else '.' :: n.coll.toList) := by
  unfold text
  by_cases alone : n.coll = ""
  · simp [alone]
  · simp [alone]

theorem ofText_exact : ofText text = .ok n ↔
    n.Divisible ∧ (n.text = text ∨ n.coll = "" ∧ text = n.db ++ ".") := by
  constructor
  · intro read
    obtain ⟨divisible, rest, parts, ends, coll⟩ := ofText_parts read
    refine ⟨divisible, ?_⟩
    cases rest with
    | nil =>
      have alone : n.coll = "" := by simpa using coll
      refine .inl (String.toList_injective ?_)
      rw [text_toList, if_pos alone, parts]
    | cons c rest =>
      cases ends c rfl
      by_cases alone : n.coll = ""
      · refine .inr ⟨alone, String.toList_injective ?_⟩
        have nothing : rest = [] := by simpa [alone] using coll.symm
        rw [parts, nothing, String.toList_append]
        rfl
      · refine .inl (String.toList_injective ?_)
        rw [text_toList, if_neg alone, parts, coll]
        rfl
  · rintro ⟨divisible, same | ⟨alone, same⟩⟩
    · refine ofText_divides divisible (same ▸ text_toList n) ?_ ?_
      · intro c first
        by_cases alone : n.coll = ""
        · simp [alone] at first
        · simpa [alone, eq_comm] using first
      · by_cases alone : n.coll = ""
        · simp [alone]
        · simp [alone]
    · have parts : text.toList = n.db.toList ++ ['.'] := by
        rw [same, String.toList_append]
        rfl
      exact ofText_divides divisible parts (by simp) (by simp [alone])

end

-- What is read is the name that was written exactly for divisible names, and nothing but their
-- texts can be read, the one with a dot at its end included.
theorem texts_exact :
    (∀ n : Namespace, ofText n.text = .ok n ↔ n.db ≠ "" ∧ '.' ∉ n.db.toList) ∧
    ∀ (text : String) (n : Namespace), ofText text = .ok n ↔
      (n.db ≠ "" ∧ '.' ∉ n.db.toList) ∧ (n.text = text ∨ n.coll = "" ∧ text = n.db ++ ".") := by
  have divisible (n : Namespace) : n.Divisible ↔ n.db ≠ "" ∧ '.' ∉ n.db.toList :=
    ⟨fun divides => ⟨divides.named, divides.undotted⟩, fun ⟨named, undotted⟩ => ⟨named, undotted⟩⟩
  constructor
  · intro n
    rw [ofText_exact, ← divisible]
    exact and_iff_left (.inl rfl)
  · intro text n
    rw [ofText_exact, divisible]

example : ofText "test.system.views" = .ok ⟨"test", "system.views"⟩ ∧
    ofText "admin." = .ok ⟨"admin", ""⟩ ∧ ofText ".coll" = .error (.invalidNamespace ".coll") := by
  decide

end WireSchema.Record.Namespace
