import Mathlib.Data.List.Perm.Basic
import Mathlib.Tactic.Tauto
import WireSchema.Proofs.Schema.Reading
import WireSchema.Schema.Import

namespace WireSchema.Schema

open Source (Node)

-- A file is read without a fault exactly when all its nodes are and fit together. What comes out is
-- their sum, and its order is the only thing that the order of the nodes decides.

namespace Spec

def append (s u : Spec) : Spec where
  globals := s.globals.or u.globals
  imports := s.imports.or u.imports
  symbols := s.symbols ++ u.symbols
  parameters := s.parameters ++ u.parameters
  options := s.options ++ u.options

instance : Append Spec := ⟨append⟩

structure Fits (s u : Spec) : Prop where
  globals : s.globals = none ∨ u.globals = none
  imports : s.imports = none ∨ u.imports = none
  symbols : (s ++ u).symbols.Distinct

section

variable {s u : Spec}

theorem append_exact (s u : Spec) : s ++ u = {
    globals := s.globals.or u.globals
    imports := s.imports.or u.imports
    symbols := s.symbols ++ u.symbols
    parameters := s.parameters ++ u.parameters
    options := s.options ++ u.options } := rfl

theorem empty_append (s : Spec) : ({} : Spec) ++ s = s := rfl

theorem append_empty (s : Spec) : s ++ ({} : Spec) = s := by
  simp [append_exact, SymbolTable.append_empty]

theorem append_assoc (s u v : Spec) : s ++ u ++ v = s ++ (u ++ v) := by
  simp [append_exact, SymbolTable.append_assoc, Option.or_assoc]

theorem fits_append {v : Spec} : s.Fits u ∧ (s ++ u).Fits v ↔ s.Fits (u ++ v) ∧
    (u.globals = none ∨ v.globals = none) ∧ (u.imports = none ∨ v.imports = none) := by
  have regroup {p q r : Prop} : (p ∨ q) ∧ (p ∧ q ∨ r) ↔ (p ∨ q ∧ r) ∧ (q ∨ r) := by
    tauto
  have either {α : Type} (a b c : Option α) : (a = none ∨ b = none) ∧ (a.or b = none ∨ c = none) ↔
      (a = none ∨ b.or c = none) ∧ (b = none ∨ c = none) := by
    simp only [Option.or_eq_none_iff]
    exact regroup
  constructor
  · rintro ⟨fits, fits'⟩
    obtain ⟨globals, apart⟩ := (either ..).mp ⟨fits.globals, fits'.globals⟩
    obtain ⟨imports, apart'⟩ := (either ..).mp ⟨fits.imports, fits'.imports⟩
    exact ⟨⟨globals, imports, append_assoc s u v ▸ fits'.symbols⟩, apart, apart'⟩
  · rintro ⟨fits, apart, apart'⟩
    obtain ⟨globals, globals'⟩ := (either ..).mpr ⟨fits.globals, apart⟩
    obtain ⟨imports, imports'⟩ := (either ..).mpr ⟨fits.imports, apart'⟩
    have symbols := fits.symbols
    rw [← append_assoc] at symbols
    exact ⟨⟨globals, imports, SymbolTable.Distinct.left symbols⟩, globals', imports', symbols⟩

theorem fits_settings (bare : u.symbols = {}) (distinct : s.symbols.Distinct)
    (globals : s.globals = none ∨ u.globals = none)
    (imports : s.imports = none ∨ u.imports = none) : s.Fits u := by
  refine ⟨globals, imports, ?_⟩
  rw [append_exact, bare]
  exact (SymbolTable.append_empty _).symm ▸ distinct

end

end Spec

section

variable {file : String} {node : Node} {spec next : Spec}

theorem sequence_some {found : Option (List String)}
    (read : Entry.sequence file node = pure found) : found.isSome = true := by
  unfold Entry.sequence at read
  split at read
  all_goals first
    | exact absurd read Report.reject_clean
    | exact Report.pure_clean.mp read ▸ rfl

theorem readGlobals_some {found : Option Globals} (read : readGlobals file node = pure found) :
    found.isSome = true := by
  obtain ⟨children, block, read⟩ := Report.bind_clean.mp read
  cases children with
  | none =>
    unfold Entry.block at block
    split at block
    · cases Report.pure_clean.mp block
    · exact absurd block Report.reject_clean
  | some children =>
    obtain ⟨g, _, read⟩ := Report.bind_clean.mp read
    exact Report.pure_clean.mp read ▸ rfl

theorem addition_exact {α : Type} {read : Report α} {f alone : α → Report Spec} (own : α → Spec)
    (brings : ∀ a, f a = pure (spec ++ own a) ∧ alone a = pure (own a))
    (fits : ∀ a, spec.Fits (own a)) :
    read >>= f = pure next ↔
      ∃ own, read >>= alone = pure own ∧ spec.Fits own ∧ next = spec ++ own := by
  simp only [Report.bind_clean, (brings _).1, (brings _).2, Report.pure_clean]
  constructor
  · rintro ⟨a, here, rfl⟩
    exact ⟨own a, ⟨a, here, rfl⟩, fits a, rfl⟩
  · rintro ⟨_, ⟨a, here, rfl⟩, -, rfl⟩
    exact ⟨a, here, rfl⟩

-- A node that defines something is read as long as its name is free. `f` goes on from `spec`, and
-- `alone` from nothing.
theorem definition_exact {α : Type} {read : Report (Option α)}
    {add : SymbolTable → α → Report SymbolTable} (table : α → SymbolTable)
    {f alone : Option α → Report Spec} (distinct : spec.symbols.Distinct)
    (each : ∀ {t a next}, t.Distinct → (add t a = pure next ↔ next = t ++ table a ∧ next.Distinct))
    (absent : f none = pure spec ∧ alone none = pure {})
    (given : ∀ a, f (some a) = (do return { spec with symbols := ← add spec.symbols a }) ∧
      alone (some a) = (do return { symbols := ← add {} a })) :
    read >>= f = pure next ↔
      ∃ own, read >>= alone = pure own ∧ spec.Fits own ∧ next = spec ++ own := by
  have whole (a : α) : spec ++ ({ symbols := {} ++ table a } : Spec) =
      { spec with symbols := spec.symbols ++ table a } := by
    simp [Spec.append_exact, SymbolTable.empty_append]
  constructor
  · intro ran
    obtain ⟨found, here, ran⟩ := Report.bind_clean.mp ran
    rw [here, pure_bind]
    cases found with
    | none =>
      rw [absent.1, Report.pure_clean] at ran
      refine ⟨{}, absent.2, Spec.fits_settings rfl distinct (.inr rfl) (.inr rfl), ?_⟩
      simp [← ran, Spec.append_exact, SymbolTable.append_empty]
    | some a =>
      rw [(given a).1] at ran
      obtain ⟨symbols, added, ran⟩ := Report.bind_clean.mp ran
      obtain ⟨rfl, kept⟩ := (each distinct).mp added
      cases Report.pure_clean.mp ran
      have free := (each SymbolTable.distinct_empty).mpr ⟨rfl, kept.right⟩
      refine ⟨_, ?_, ?_, (whole a).symm⟩
      · rw [(given a).2, free, pure_bind]
      · exact ⟨.inr rfl, .inr rfl, (whole a).symm ▸ kept⟩
  · rintro ⟨own, ran, fits, rfl⟩
    obtain ⟨found, here, ran⟩ := Report.bind_clean.mp ran
    rw [here, pure_bind]
    cases found with
    | none =>
      rw [absent.2, Report.pure_clean] at ran
      rw [absent.1, ← ran]
      simp [Spec.append_exact, SymbolTable.append_empty]
    | some a =>
      rw [(given a).2] at ran
      obtain ⟨symbols, added, ran⟩ := Report.bind_clean.mp ran
      obtain ⟨rfl, _⟩ := (each SymbolTable.distinct_empty).mp added
      cases Report.pure_clean.mp ran
      have kept := fits.symbols
      rw [whole] at kept
      rw [(given a).1, (each distinct).mpr ⟨rfl, kept⟩, pure_bind, whole]

theorem readTopLevel_exact (distinct : spec.symbols.Distinct) :
    readTopLevel file spec node = pure next ↔
      ∃ own, readTopLevel file {} node = pure own ∧ spec.Fits own ∧ next = spec ++ own := by
  unfold readTopLevel
  split
  case h_1 =>
    have first : ¬({} : Spec).globals.isSome = true := Bool.false_ne_true
    rw [if_neg first]
    split
    · rename_i taken
      simp only [Report.complain_bind, false_iff]
      rintro ⟨own, ran, fits, -⟩
      obtain ⟨g, here, ran⟩ := Report.bind_clean.mp ran
      cases Report.pure_clean.mp ran
      obtain ⟨given, rfl⟩ := Option.isSome_iff_exists.mp (readGlobals_some here)
      rcases fits.globals with absent | absent
      · simp [absent] at taken
      · cases absent
    · rename_i free
      have none : spec.globals = none := by simpa using free
      refine addition_exact (fun g => { globals := g }) (fun g => ⟨?_, rfl⟩) fun g =>
        Spec.fits_settings rfl distinct (.inl none) (.inr rfl)
      simp [Spec.append_exact, none, SymbolTable.append_empty]
  case h_2 =>
    have first : ¬({} : Spec).imports.isSome = true := Bool.false_ne_true
    rw [if_neg first]
    split
    · rename_i taken
      simp only [Report.complain_bind, false_iff]
      rintro ⟨own, ran, fits, -⟩
      obtain ⟨found, here, ran⟩ := Report.bind_clean.mp ran
      obtain ⟨files, rfl⟩ := Option.isSome_iff_exists.mp (sequence_some here)
      cases Report.pure_clean.mp ran
      rcases fits.imports with absent | absent
      · simp [absent] at taken
      · cases absent
    · rename_i free
      obtain ⟨globals, imports, symbols, parameters, options⟩ := spec
      obtain rfl : imports = none := by simpa using free
      refine addition_exact (fun found => { imports := found.map fun files =>
        { location := nodeLocation file node, files } }) (fun found => ?_) fun found =>
        Spec.fits_settings rfl distinct (.inr rfl) (.inl rfl)
      cases found <;> simp [Spec.append_exact, SymbolTable.append_empty]
  case h_3 =>
    exact definition_exact (fun d => { types := [d] }) distinct SymbolTable.addType_exact
      ⟨rfl, rfl⟩ fun _ => ⟨rfl, rfl⟩
  case h_4 =>
    exact definition_exact (fun d => { enums := [d] }) distinct SymbolTable.addEnum_exact
      ⟨rfl, rfl⟩ fun _ => ⟨rfl, rfl⟩
  case h_5 =>
    exact definition_exact (fun d => { structs := [d] }) distinct SymbolTable.addStruct_exact
      ⟨rfl, rfl⟩ fun _ => ⟨rfl, rfl⟩
  case h_6 =>
    exact definition_exact (fun d => { commands := [d] }) distinct SymbolTable.addCommand_exact
      ⟨rfl, rfl⟩ fun _ => ⟨rfl, rfl⟩
  case h_7 =>
    refine addition_exact (fun p => { parameters := p.toList }) (fun p => ⟨?_, rfl⟩)
      fun p => Spec.fits_settings rfl distinct (.inr rfl) (.inr rfl)
    simp [Spec.append_exact, SymbolTable.append_empty]
  case h_8 =>
    refine addition_exact (fun o => { options := o.toList }) (fun o => ⟨?_, rfl⟩)
      fun o => Spec.fits_settings rfl distinct (.inr rfl) (.inr rfl)
    simp [Spec.append_exact, SymbolTable.append_empty]
  case h_9 => simp only [Report.complain_bind, false_and, exists_false]

end

def part (file : String) (node : Node) : Spec :=
  (readTopLevel file {} node).value

def Clean (file : String) (node : Node) : Prop :=
  (readTopLevel file {} node).diagnostics = []

def assemble (file : String) (nodes : List Node) : Spec where
  globals := nodes.findSome? fun n => (part file n).globals
  imports := nodes.findSome? fun n => (part file n).imports
  symbols := {
    commands := nodes.flatMap fun n => (part file n).symbols.commands
    enums := nodes.flatMap fun n => (part file n).symbols.enums
    structs := nodes.flatMap fun n => (part file n).symbols.structs
    types := nodes.flatMap fun n => (part file n).symbols.types }
  parameters := nodes.flatMap fun n => (part file n).parameters
  options := nodes.flatMap fun n => (part file n).options

structure Once (file : String) (nodes : List Node) : Prop where
  globals : (nodes.filterMap fun n => (part file n).globals).length ≤ 1
  imports : (nodes.filterMap fun n => (part file n).imports).length ≤ 1

section

variable {file : String} {node : Node} {nodes nodes' rest : List Node} {start spec next : Spec}

theorem single_cons {α β : Type} {f : α → Option β} {a : α} {l : List α} :
    ((a :: l).filterMap f).length ≤ 1 ↔
      (l.filterMap f).length ≤ 1 ∧ (f a = none ∨ l.findSome? f = none) := by
  have nothing : l.findSome? f = none ↔ (l.filterMap f).length = 0 := by
    rw [List.length_eq_zero_iff, List.filterMap_eq_nil_iff, List.findSome?_eq_none_iff]
  rw [nothing]
  cases here : f a with
  | none => simp [here]
  | some b =>
    simp only [List.filterMap_cons, here, List.length_cons, reduceCtorEq, false_or]
    omega

theorem once_cons : Once file (node :: rest) ↔ Once file rest ∧
    ((part file node).globals = none ∨ (assemble file rest).globals = none) ∧
    ((part file node).imports = none ∨ (assemble file rest).imports = none) := by
  constructor
  · rintro ⟨globals, imports⟩
    obtain ⟨globals, apart⟩ := single_cons.mp globals
    obtain ⟨imports, apart'⟩ := single_cons.mp imports
    exact ⟨⟨globals, imports⟩, apart, apart'⟩
  · rintro ⟨once, apart, apart'⟩
    exact ⟨single_cons.mpr ⟨once.globals, apart⟩, single_cons.mpr ⟨once.imports, apart'⟩⟩

theorem assemble_cons : assemble file (node :: rest) = part file node ++ assemble file rest := by
  have first {α : Type} (f : Node → Option α) :
      (node :: rest).findSome? f = (f node).or (rest.findSome? f) := by
    rw [List.findSome?_cons]
    cases f node <;> rfl
  simp only [assemble, first]
  rfl

theorem readTopLevel_part (distinct : spec.symbols.Distinct) :
    readTopLevel file spec node = pure next ↔
      Clean file node ∧ spec.Fits (part file node) ∧ next = spec ++ part file node := by
  rw [readTopLevel_exact distinct]
  constructor
  · rintro ⟨own, ran, fits, rfl⟩
    obtain ⟨rfl, clean⟩ := Report.clean_exact.mp ran
    exact ⟨clean, fits, rfl⟩
  · rintro ⟨clean, fits, rfl⟩
    exact ⟨_, Report.clean_exact.mpr ⟨rfl, clean⟩, fits, rfl⟩

theorem foldlM_assemble (distinct : start.symbols.Distinct) :
    nodes.foldlM (readTopLevel file) start = pure spec ↔
      (∀ n ∈ nodes, Clean file n) ∧ Once file nodes ∧ start.Fits (assemble file nodes) ∧
        spec = start ++ assemble file nodes := by
  induction nodes generalizing start with
  | nil =>
    have fits : start.Fits (assemble file []) :=
      Spec.fits_settings rfl distinct (.inr rfl) (.inr rfl)
    have once : Once file [] := ⟨Nat.zero_le _, Nat.zero_le _⟩
    have same : start ++ assemble file [] = start := start.append_empty
    simp [fits, once, same, eq_comm]
  | cons node rest ih =>
    rw [List.foldlM_cons, Report.bind_clean, once_cons, assemble_cons, List.forall_mem_cons,
      ← Spec.append_assoc]
    constructor
    · rintro ⟨middle, first, ran⟩
      obtain ⟨clean, fits, rfl⟩ := (readTopLevel_part distinct).mp first
      obtain ⟨others, once, fits', rfl⟩ := (ih fits.symbols).mp ran
      obtain ⟨whole, apart⟩ := Spec.fits_append.mp ⟨fits, fits'⟩
      exact ⟨⟨clean, others⟩, ⟨once, apart⟩, whole, rfl⟩
    · rintro ⟨⟨clean, others⟩, ⟨once, apart⟩, whole, rfl⟩
      obtain ⟨fits, fits'⟩ := Spec.fits_append.mpr ⟨whole, apart⟩
      exact ⟨_, (readTopLevel_part distinct).mpr ⟨clean, fits, rfl⟩,
        (ih fits.symbols).mpr ⟨others, once, fits', rfl⟩⟩

theorem readSpec_exact : readSpec file nodes = pure spec ↔
    (∀ n ∈ nodes, Clean file n) ∧ Once file nodes ∧ (assemble file nodes).symbols.Distinct ∧
      spec = assemble file nodes := by
  have fits : ({} : Spec).Fits (assemble file nodes) ↔ (assemble file nodes).symbols.Distinct :=
    ⟨fun fits => fits.symbols, fun distinct => ⟨.inl rfl, .inl rfl, distinct⟩⟩
  have none : ({} : Spec).symbols.Distinct := SymbolTable.distinct_empty
  unfold readSpec
  rw [foldlM_assemble none, fits, Spec.empty_append]

end

structure Spec.Reordered (s u : Spec) : Prop where
  globals : s.globals = u.globals
  imports : s.imports = u.imports
  symbols : s.symbols.Perm u.symbols
  parameters : s.parameters.Perm u.parameters
  options : s.options.Perm u.options

section

variable {file : String} {nodes nodes' : List Node} {spec : Spec}

theorem findSome?_perm {α β : Type} {f : α → Option β} {l l' : List α} (perm : l.Perm l')
    (single : (l.filterMap f).length ≤ 1) : l.findSome? f = l'.findSome? f := by
  have same : l.filterMap f = l'.filterMap f := by
    have reordered := perm.filterMap f
    cases found : l.filterMap f with
    | nil => exact (List.nil_perm.mp (found ▸ reordered)).symm
    | cons b more =>
      rw [found] at single reordered
      obtain rfl : more = [] := by simpa using single
      exact List.singleton_perm.mp reordered
  rw [← List.head?_filterMap, ← List.head?_filterMap, same]

theorem assemble_perm (perm : nodes.Perm nodes') (once : Once file nodes) :
    (assemble file nodes).Reordered (assemble file nodes') where
  globals := findSome?_perm perm once.globals
  imports := findSome?_perm perm once.imports
  symbols := ⟨perm.flatMap_right _, perm.flatMap_right _, perm.flatMap_right _,
    perm.flatMap_right _⟩
  parameters := perm.flatMap_right _
  options := perm.flatMap_right _

theorem readSpec_perm (perm : nodes.Perm nodes') (read : readSpec file nodes = pure spec) :
    spec = assemble file nodes ∧ readSpec file nodes' = pure (assemble file nodes') ∧
      (assemble file nodes).Reordered (assemble file nodes') := by
  obtain ⟨clean, once, distinct, rfl⟩ := readSpec_exact.mp read
  have reordered := assemble_perm perm once
  refine ⟨rfl, readSpec_exact.mpr ⟨?_, ?_, reordered.symbols.distinct distinct, rfl⟩, reordered⟩
  · exact fun n member => clean n (perm.mem_iff.mpr member)
  · exact ⟨(perm.filterMap _).length_eq ▸ once.globals, (perm.filterMap _).length_eq ▸ once.imports⟩

end

section

variable {library : Library} {file : String} {c out : Closure} {t : SymbolTable}

-- What a request adds depends on the names that are taken, not on their order.
theorem step_reordered {request : Request} {rest : List Request} (perm : c.symbols.Perm t)
    (distinct : c.symbols.Distinct) (ran : c.step library request rest = pure out) :
    ∃ extra, extra.Marked true ∧ out.symbols = c.symbols ++ extra ∧ out.symbols.Distinct ∧
      { c with symbols := t }.step library request rest =
        pure { out with symbols := t ++ extra } := by
  unfold Closure.step at ran ⊢
  cases resolved : library.resolve request.base request.imported with
  | none =>
    simp only [resolved] at ran
    exact absurd ran Report.complain_bind
  | some path =>
    simp only [resolved] at ran ⊢
    by_cases seen : c.visited.contains path
    · rw [if_pos seen] at ran ⊢
      cases Report.pure_clean.mp ran
      refine ⟨{}, marked_empty, (c.symbols.append_empty).symm, distinct, ?_⟩
      rw [t.append_empty]
    · rw [if_neg seen] at ran ⊢
      cases opened : library.read path with
      | error reason =>
        simp only [opened] at ran
        exact absurd ran Report.complain_bind
      | ok text =>
        simp only [opened] at ran ⊢
        obtain ⟨imported, parsed, ran⟩ := Report.bind_clean.mp ran
        obtain ⟨symbols, added, ran⟩ := Report.bind_clean.mp ran
        obtain ⟨rfl, kept⟩ := (SymbolTable.addImported_exact distinct).mp added
        cases Report.pure_clean.mp ran
        have added' := (SymbolTable.addImported_exact (perm.distinct distinct)).mpr
          ⟨rfl, (perm.append_right _).distinct kept⟩
        refine ⟨_, asImported_marked _, rfl, kept, ?_⟩
        rw [parsed, pure_bind, added', pure_bind]

theorem run_reordered {fuel : Nat} (perm : c.symbols.Perm t) (distinct : c.symbols.Distinct)
    (ran : c.run library fuel = pure out) :
    ∃ extra, extra.Marked true ∧ out.symbols = c.symbols ++ extra ∧ out.symbols.Distinct ∧
      { c with symbols := t }.run library fuel = pure { out with symbols := t ++ extra } := by
  induction fuel generalizing c t with
  | zero =>
    cases Report.pure_clean.mp ran
    refine ⟨{}, marked_empty, (SymbolTable.append_empty _).symm, distinct, ?_⟩
    rw [t.append_empty]
    rfl
  | succ fuel ih =>
    obtain ⟨symbols, visited, resolved, pending⟩ := c
    cases pending with
    | nil =>
      cases Report.pure_clean.mp ran
      refine ⟨{}, marked_empty, (SymbolTable.append_empty _).symm, distinct, ?_⟩
      rw [t.append_empty]
      rfl
    | cons request rest =>
      obtain ⟨middle, first, ran⟩ := Report.bind_clean.mp ran
      obtain ⟨extra, marked, added, kept, first'⟩ := step_reordered perm distinct first
      have perm' : middle.symbols.Perm (t ++ extra) := added ▸ perm.append_right extra
      obtain ⟨more, marked', added', kept', ran'⟩ := ih perm' kept ran
      refine ⟨extra ++ more, marked_append marked marked', ?_, kept', ?_⟩
      · rw [added', added, SymbolTable.append_assoc]
      · refine Report.bind_clean.mpr ⟨_, first', ?_⟩
        rw [ran', SymbolTable.append_assoc]

theorem close_reordered {s u closed : Spec} {fuel : Nat} (reordered : s.Reordered u)
    (distinct : s.symbols.Distinct) (ran : s.close library fuel file = pure closed) :
    ∃ extra, extra.Marked true ∧ (s.symbols ++ extra).Distinct ∧
      closed = { s with symbols := s.symbols ++ extra, imports := closed.imports } ∧
      u.close library fuel file =
        pure { u with symbols := u.symbols ++ extra, imports := closed.imports } := by
  obtain ⟨c, followed, ran⟩ := Report.bind_clean.mp ran
  cases Report.pure_clean.mp ran
  have started : (Closure.start s file).symbols.Distinct := distinct
  have perm : (Closure.start s file).symbols.Perm u.symbols := reordered.symbols
  obtain ⟨extra, marked, symbols, kept, followed'⟩ := run_reordered perm started followed
  have same : Closure.start u file = { Closure.start s file with symbols := u.symbols } := by
    simp only [Closure.start, Spec.requests, reordered.imports]
  have whole : c.symbols = s.symbols ++ extra := symbols
  refine ⟨extra, marked, whole ▸ kept, ?_, ?_⟩
  · rw [whole]
  · unfold Spec.close
    rw [same, followed', pure_bind, reordered.imports]

end

end WireSchema.Schema
