import WireSchema.Proofs.Schema.Declarations

namespace WireSchema.Schema

open Source (Node)

-- The names do not depend on the file that a text is read as, as long as there is no fault in it.

def definedName? (node : Node) : Option String :=
  if node.key ∈ ["type", "enum", "struct", "command"] then node.name else none

def definedNames (text : String) : List String :=
  match Source.tokenize text >>= Source.parseNodes with
  | .ok nodes => nodes.filterMap definedName?
  | .error _ => []

section

variable {α σ : Type} {file text : String} {node : Node}

theorem block_clean {found : Option (List Node)} (read : Entry.block file node = pure found) :
    found.isSome = true := by
  unfold Entry.block at read
  split at read
  · exact Report.pure_clean.mp read ▸ rfl
  · exact absurd read Report.reject_clean

theorem name_clean {found : Option String} (read : Entry.name file node = pure found) :
    found = node.name ∧ found.isSome = true := by
  unfold Entry.name at read
  split at read
  · rename_i name given
    cases Report.pure_clean.mp read
    exact ⟨given.symm, rfl⟩
  · exact absurd read Report.reject_clean

theorem named_clean {k : α → String} {f : String → List Node → Report (Option α)}
    {found : Option α}
    (each : ∀ name children found, f name children = pure found →
      ∃ a, found = some a ∧ k a = name)
    (read : (do
      let some name ← Entry.name file node | return none
      let some children ← Entry.block file node | return none
      f name children) = pure found) :
    ∃ a, found = some a ∧ node.name = some (k a) := by
  obtain ⟨name, named, read⟩ := Report.bind_clean.mp read
  obtain ⟨given, here⟩ := name_clean named
  obtain ⟨name, rfl⟩ := Option.isSome_iff_exists.mp here
  obtain ⟨children, block, read⟩ := Report.bind_clean.mp read
  obtain ⟨children, rfl⟩ := Option.isSome_iff_exists.mp (block_clean block)
  obtain ⟨a, rfl, same⟩ := each name children found read
  exact ⟨a, rfl, same ▸ given.symm⟩

theorem fold_clean {P : σ → Prop} {parent : String} {repeatable : String → Bool}
    {step : σ → Node → Report (Option σ)} {s out : σ} {nodes : List Node}
    (read : Entry.fold file parent repeatable step [] s nodes = pure out) (start : P s)
    (each : ∀ s node, P s → (step s node).Gives fun next => ∀ s ∈ next, P s) : P out := by
  obtain ⟨rfl, -⟩ := Report.clean_exact.mp read
  exact (Entry.fold_gives start each).2

theorem readType_named {found : Option TypeDef} (read : readType file node = pure found) :
    ∃ d, found = some d ∧ node.name = some d.name := by
  refine named_clean (fun name children found read => ?_) read
  obtain ⟨t, entries, read⟩ := Report.bind_clean.mp read
  have kept : t.name = name := by
    refine fold_clean (P := fun t : TypeDef => t.name = name) entries rfl fun t child same => ?_
    split <;> simp [Report.Gives, same]
  split at read
  · exact absurd read Report.reject_clean
  · split at read
    · exact absurd read Report.reject_clean
    · exact ⟨t, (Report.pure_clean.mp read).symm, kept⟩

theorem readEnum_named {found : Option EnumDef} (read : readEnum file node = pure found) :
    ∃ d, found = some d ∧ node.name = some d.name := by
  refine named_clean (fun name children found read => ?_) read
  obtain ⟨e, entries, read⟩ := Report.bind_clean.mp read
  have kept : e.name = name := by
    refine fold_clean (P := fun e : EnumDef => e.name = name) entries rfl fun e child same => ?_
    split <;> simp [Report.Gives, same]
  split at read
  · exact absurd read Report.reject_clean
  · split at read
    · exact absurd read Report.reject_clean
    · exact ⟨e, (Report.pure_clean.mp read).symm, kept⟩

theorem readStructEntry_name {s : StructDef} :
    (readStructEntry file s node).Gives fun next => ∀ s' ∈ next, s'.name = s.name := by
  unfold readStructEntry
  split <;> simp [Report.Gives]

theorem readStruct_named {found : Option StructDef} (read : readStruct file node = pure found) :
    ∃ d, found = some d ∧ node.name = some d.name := by
  refine named_clean (fun name children found read => ?_) read
  obtain ⟨s, entries, read⟩ := Report.bind_clean.mp read
  refine ⟨s, (Report.pure_clean.mp read).symm, ?_⟩
  refine fold_clean (P := fun s : StructDef => s.name = name) entries rfl fun s child same => ?_
  obtain ⟨quiet, kept⟩ : (readStructEntry file s child).Gives _ := readStructEntry_name
  exact ⟨quiet, fun next given => (kept next given).trans same⟩

theorem readCommandEntry_name {d : CommandDraft} :
    (readCommandEntry file d node).Gives fun next =>
      ∀ d' ∈ next, d'.command.base.name = d.command.base.name := by
  unfold readCommandEntry
  split
  · simp [Report.Gives]
  · refine .bind Entry.quiet_scalar ?_
    split
    · simp [Report.Gives]
    · split <;> simp [Report.Gives]
  · simp [Report.Gives]
  · simp [Report.Gives]
  · simp [Report.Gives]
  · refine .andThen readStructEntry_name fun next kept => ?_
    cases next with
    | some base => simpa [Report.Gives] using kept
    | none => simp [Report.Gives]

theorem readCommand_named {found : Option CommandDef} (read : readCommand file node = pure found) :
    ∃ d, found = some d ∧ node.name = some d.base.name := by
  refine named_clean (k := fun c : CommandDef => c.base.name)
    (fun name children found read => ?_) read
  obtain ⟨d, entries, read⟩ := Report.bind_clean.mp read
  have kept : d.command.base.name = name := by
    refine fold_clean (P := fun d : CommandDraft => d.command.base.name = name) entries rfl
      fun d child same => ?_
    obtain ⟨quiet, kept⟩ : (readCommandEntry file d child).Gives _ := readCommandEntry_name
    exact ⟨quiet, fun next given => (kept next given).trans same⟩
  split at read
  · exact ⟨d.command, (Report.pure_clean.mp read).symm, kept⟩
  · exact absurd read Report.reject_clean

theorem names_added {read : Report (Option α)} {add : SymbolTable → α → Report SymbolTable}
    {k : α → String} (table : α → SymbolTable) {f : Option α → Report Spec} {spec : Spec}
    (named : ∀ found, read = pure found → ∃ a, found = some a ∧ node.name = some (k a))
    (each : ∀ {t a next}, t.Distinct → (add t a = pure next ↔ next = t ++ table a ∧ next.Distinct))
    (one : ∀ a, (table a).names = [k a])
    (given : ∀ a, f (some a) = do return { symbols := ← add {} a })
    (ran : read >>= f = pure spec) : spec.symbols.names = node.name.toList := by
  obtain ⟨found, here, ran⟩ := Report.bind_clean.mp ran
  obtain ⟨a, rfl, name⟩ := named found here
  rw [given] at ran
  obtain ⟨symbols, added, ran⟩ := Report.bind_clean.mp ran
  obtain ⟨rfl, -⟩ := (each SymbolTable.distinct_empty).mp added
  cases Report.pure_clean.mp ran
  rw [name, SymbolTable.empty_append, one]
  rfl

theorem part_names (clean : Clean file node) :
    (part file node).symbols.names = (definedName? node).toList := by
  have ran : readTopLevel file {} node = pure (part file node) :=
    Report.clean_exact.mpr ⟨rfl, clean⟩
  unfold readTopLevel at ran
  unfold definedName?
  split at ran
  case h_3 key =>
    rw [if_pos (by simp [key])]
    exact names_added (fun d => { types := [d] }) (fun _ => readType_named) SymbolTable.addType_exact
      (fun _ => rfl) (fun _ => rfl) ran
  case h_4 key =>
    rw [if_pos (by simp [key])]
    exact names_added (fun d => { enums := [d] }) (fun _ => readEnum_named) SymbolTable.addEnum_exact
      (fun _ => rfl) (fun _ => rfl) ran
  case h_5 key =>
    rw [if_pos (by simp [key])]
    exact names_added (fun d => { structs := [d] }) (fun _ => readStruct_named)
      SymbolTable.addStruct_exact (fun _ => rfl) (fun _ => rfl) ran
  case h_6 key =>
    rw [if_pos (by simp [key])]
    exact names_added (fun d => { commands := [d] }) (fun _ => readCommand_named)
      SymbolTable.addCommand_exact (fun _ => rfl) (fun _ => rfl) ran
  case h_1 key =>
    rw [if_neg (by simp [key]), (Report.clean_exact.mp ran).1.symm]
    rfl
  case h_2 key =>
    rw [if_neg (by simp [key]), (Report.clean_exact.mp ran).1.symm]
    cases files : (Entry.sequence file node).value <;> simp [files] <;> rfl
  case h_7 key | h_8 key =>
    rw [if_neg (by simp [key]), (Report.clean_exact.mp ran).1.symm]
    rfl
  case h_9 => exact absurd ran Report.complain_bind

theorem assemble_names {nodes : List Node} (clean : ∀ n ∈ nodes, Clean file n) :
    (assemble file nodes).symbols.names.Perm (nodes.filterMap definedName?) := by
  induction nodes with
  | nil => exact .refl _
  | cons node rest ih =>
    obtain ⟨here, others⟩ := List.forall_mem_cons.mp clean
    rw [assemble_cons]
    refine (SymbolTable.names_append ..).trans ?_
    rw [part_names here]
    have split : (node :: rest).filterMap definedName? =
        (definedName? node).toList ++ rest.filterMap definedName? := by
      cases named : definedName? node <;> simp [named]
    rw [split]
    exact (ih others).append_left _

theorem parseText_names {spec : Spec} (read : parseText text file = pure spec) :
    spec.symbols.names.Perm (definedNames text) := by
  unfold parseText at read
  unfold definedNames
  cases parsed : Source.tokenize text >>= Source.parseNodes with
  | ok nodes =>
    rw [parsed] at read
    obtain ⟨clean, -, -, rfl⟩ := readSpec_exact.mp read
    exact assemble_names clean
  | error e =>
    rw [parsed] at read
    cases (Report.clean_exact.mp read).2

end

end WireSchema.Schema
