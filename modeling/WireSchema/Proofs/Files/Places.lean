import WireSchema.Files.Tree
import WireSchema.Proofs.Outcome

namespace WireSchema.Path

def enter (here : List String) (name : String) : List String :=
  if isIdle name then here else if name == ".." then here.dropLast else here ++ [name]

def resolve (home : List String) (path : String) : List String :=
  (pieces path.toList).foldl enter (if isAbsolute path then [] else home)

end WireSchema.Path

namespace WireSchema.Files.FileTree

-- A path that can be followed leads to the place that its spelling alone gives, whatever stands in
-- the tree.

section

variable {t u : FileTree} {p q : Place} {e : Entry}

theorem entry?_top (t : FileTree) : t.entry? [] = some .directory := rfl

theorem lookup_filter {entries : List (Place × Entry)} (other : q ≠ p) :
    (entries.filter (·.1 != p)).lookup q = entries.lookup q := by
  induction entries with
  | nil => rfl
  | cons entry rest ih =>
    obtain ⟨place, e⟩ := entry
    by_cases here : place = p
    · rw [List.filter_cons_of_neg (by simp [here]), ih, List.lookup_cons,
        beq_false_of_ne (here ▸ other)]
    · rw [List.filter_cons_of_pos (by simp [here]), List.lookup_cons, List.lookup_cons, ih]

theorem lookup_filter_self {entries : List (Place × Entry)} :
    (entries.filter (·.1 != p)).lookup p = none := by
  rw [List.lookup_eq_none_iff]
  intro entry member
  simpa [@eq_comm _ p] using (List.mem_filter.mp member).2

theorem entry?_put (t : FileTree) (p : Place) (e : Entry) (q : Place) :
    entry? (t.put p e) q =
      if q = [] then some .directory else if q = p then some e else t.entry? q := by
  unfold entry? put
  by_cases top : q = []
  · simp [top]
  · simp only [if_neg top]
    by_cases same : q = p
    · simp [same]
    · rw [if_neg same, List.lookup_cons, beq_false_of_ne same]
      exact lookup_filter same

theorem entry?_erase (t : FileTree) (p q : Place) :
    entry? (t.erase p) q =
      if q = [] then some .directory else if q = p then none else t.entry? q := by
  unfold entry? erase
  by_cases top : q = []
  · simp [top]
  · simp only [if_neg top]
    by_cases same : q = p
    · rw [if_pos same, same]
      exact lookup_filter_self
    · rw [if_neg same]
      exact lookup_filter same

theorem put_here (proper : p ≠ []) : entry? (t.put p e) p = some e := by
  rw [entry?_put, if_neg proper, if_pos rfl]

theorem put_elsewhere (other : q ≠ p) : entry? (t.put p e) q = t.entry? q := by
  rw [entry?_put, if_neg other]
  split
  · rename_i top
    rw [top, entry?_top]
  · rfl

theorem erase_here (proper : p ≠ []) : entry? (t.erase p) p = none := by
  rw [entry?_erase, if_neg proper, if_pos rfl]

theorem erase_elsewhere (other : q ≠ p) : entry? (t.erase p) q = t.entry? q := by
  rw [entry?_erase, if_neg other]
  split
  · rename_i top
    rw [top, entry?_top]
  · rfl

@[simp]
theorem home_put : (t.put p e).home = t.home := rfl

@[simp]
theorem home_erase : (t.erase p).home = t.home := rfl

end

section

variable {t u : FileTree} {here p : Place} {names more : List String} {path : String} {e : Entry}

def Passable (name : String) : Prop :=
  Path.isIdle name = true ∨ name = ".." ∨ name.utf8ByteSize ≤ maxName

theorem follow_cons {name : String} : t.follow here (name :: names) = .ok p ↔
    t.entry? here = some .directory ∧ Passable name ∧
      t.follow (Path.enter here name) names = .ok p := by
  unfold Passable Path.enter
  rw [follow]
  cases standing : t.entry? here with
  | none => simp
  | some e =>
    cases e with
    | file => simp
    | directory =>
      by_cases idle : Path.isIdle name = true
      · simp [idle]
      · by_cases back : name = ".."
        · have counts : Path.isIdle ".." = false := by decide
          simp [back, counts]
        · by_cases long : maxName < name.utf8ByteSize
          · simp [idle, back, long, Nat.not_le_of_lt long]
          · simp [idle, back, long, Nat.le_of_not_lt long]

theorem follow_enter (led : t.follow here names = .ok p) : p = names.foldl Path.enter here := by
  induction names generalizing here with
  | nil =>
    cases led
    rfl
  | cons name rest ih => exact ih (follow_cons.mp led).2.2

theorem follow_append (t : FileTree) (here : Place) (names more : List String) :
    t.follow here (names ++ more) = t.follow here names >>= (t.follow · more) := by
  induction names generalizing here with
  | nil => rfl
  | cons name rest ih =>
    rw [List.cons_append, follow, follow]
    cases t.entry? here with
    | none => rfl
    | some e =>
      cases e with
      | file => rfl
      | directory =>
        simp only [ih]
        split
        · rfl
        · split
          · rfl
          · split <;> rfl

theorem follow_mono (more : ∀ q, t.entry? q = some .directory → u.entry? q = some .directory)
    (led : t.follow here names = .ok p) : u.follow here names = .ok p := by
  induction names generalizing here with
  | nil => exact led
  | cons name rest ih =>
    obtain ⟨directory, fits, further⟩ := follow_cons.mp led
    exact follow_cons.mpr ⟨more here directory, fits, ih further⟩

theorem locate_exact : t.locate path = .ok p ↔
    checkPath path = .ok () ∧ t.follow (t.start path) (Path.pieces path.toList) = .ok p :=
  check_bind_exact

theorem locate_resolve (led : t.locate path = .ok p) : p = Path.resolve t.home path :=
  follow_enter (locate_exact.mp led).2

theorem locate_mono (home : u.home = t.home)
    (more : ∀ q, t.entry? q = some .directory → u.entry? q = some .directory)
    (led : t.locate path = .ok p) : u.locate path = .ok p := by
  obtain ⟨passed, led⟩ := locate_exact.mp led
  have start : u.start path = t.start path := by
    unfold FileTree.start
    rw [home]
  exact locate_exact.mpr ⟨passed, start ▸ follow_mono more led⟩

theorem find_exact : t.find path = .ok e ↔ ∃ p, t.locate path = .ok p ∧ t.entry? p = some e := by
  unfold find
  rw [bind_ok_exact]
  refine exists_congr fun p => and_congr_right fun _ => ?_
  split
  · rename_i found
    simp [found, pure, Except.pure]
  · rename_i absent
    simp [absent, throw, throwThe, MonadExceptOf.throw]

theorem makeDirectory_ok (made : t.makeDirectory path = .ok u) :
    ∃ p, t.locate path = .ok p ∧ t.entry? p = none ∧ u = t.put p .directory := by
  obtain ⟨p, led, made⟩ := bind_ok_exact.mp made
  refine ⟨p, led, ?_⟩
  split at made
  · cases made
  · rename_i free
    cases made
    exact ⟨by simpa using free, rfl⟩

theorem follow_last {directory : Place} {front : List String} {name : String}
    (led : t.follow here (front ++ ["."]) = .ok directory) (proper : Path.isIdle name = false)
    (forth : name ≠ "..") (short : ¬maxName < name.utf8ByteSize) :
    t.follow here (front ++ [name]) = .ok (directory ++ [name]) := by
  rw [follow_append] at led ⊢
  obtain ⟨place, front, last⟩ := bind_ok_exact.mp led
  obtain ⟨standing, _, idle⟩ := follow_cons.mp last
  cases idle
  have same : Path.enter place "." = place := rfl
  rw [front, same]
  show t.follow place [name] = _
  rw [follow, standing]
  simp [proper, forth, short, follow]

theorem place_ok {bytes : List UInt8} (placed : t.place path bytes = .ok u) :
    ∃ p, t.locate path = .ok p ∧ p ≠ [] ∧ t.entry? p ≠ some .directory ∧
      u = t.put p (.file bytes) := by
  unfold place at placed
  obtain ⟨passed, placed⟩ := check_bind_exact.mp placed
  obtain ⟨directory, led, placed⟩ := bind_ok_exact.mp placed
  generalize parts : ((Path.pieces path.toList).reverse.dropWhile String.isEmpty).reverse = kept
    at led placed
  split at placed
  · cases placed
  rename_i name last
  split at placed
  · cases placed
  rename_i named
  split at placed
  · cases placed
  rename_i short
  split at placed
  · cases placed
  rename_i whole
  split at placed
  · cases placed
  rename_i free
  cases placed
  refine ⟨directory ++ [name], locate_exact.mpr ⟨passed, ?_⟩, by simp, free, rfl⟩
  obtain ⟨plain, forth⟩ : name ≠ "." ∧ name ≠ ".." := by simpa using named
  have idle := List.head?_dropWhile_not String.isEmpty (Path.pieces path.toList).reverse
  rw [← List.getLast?_reverse, parts, last] at idle
  -- Nothing was dropped at the end, or a directory would have been asked for.
  have all : kept = Path.pieces path.toList := by
    rw [← parts, List.reverse_eq_iff]
    refine (List.dropWhile_suffix _).eq_of_length_le ?_
    have same := congrArg List.length parts
    rw [List.length_reverse] at same
    rw [same, List.length_reverse]
    exact Nat.le_of_not_lt whole
  rw [← all, ← List.dropLast_append_getLast? name last]
  exact follow_last led (by simp [Path.isIdle, plain, idle]) forth short

end

end WireSchema.Files.FileTree
