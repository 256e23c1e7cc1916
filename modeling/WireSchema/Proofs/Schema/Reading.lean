import WireSchema.Proofs.Schema.Table
import WireSchema.Schema.Reading

namespace WireSchema.Schema

-- The facts follow the readers: single entries, blocks of entries, definitions, nodes, files.

@[simp]
def Fault.isImportNotFound : Fault → Bool
  | .importNotFound _ => true
  | _ => false

namespace Report

section

variable {α β : Type} {r : Report α} {P : α → Prop} {a : α} {f : α → Report β}

def Quiet (r : Report α) : Prop :=
  ∀ d ∈ r.diagnostics, d.fault.isImportNotFound = false

def Gives (r : Report α) (P : α → Prop) : Prop :=
  r.Quiet ∧ P r.value

theorem quiet_exact : r.Quiet ↔ r.diagnostics.filter (·.fault.isImportNotFound) = [] := by
  simp [Quiet]

@[simp]
theorem value_pure : (pure a : Report α).value = a := rfl

@[simp]
theorem value_bind : (r >>= f).value = (f r.value).value := rfl

@[simp]
theorem value_reject {location : Location} {fault : Fault} :
    (reject location fault : Report (Option α)).value = none := rfl

@[simp]
theorem quiet_pure : (pure a : Report α).Quiet := by
  simp [Quiet, pure]

@[simp]
theorem quiet_bind : (r >>= f).Quiet ↔ r.Quiet ∧ (f r.value).Quiet := by
  simp only [Quiet, bind, List.mem_append]
  grind

@[simp]
theorem value_map {g : α → β} : (g <$> r).value = g r.value := rfl

@[simp]
theorem quiet_map {g : α → β} : (g <$> r).Quiet ↔ r.Quiet := by
  simp [Quiet, Functor.map]

theorem Gives.bind {Q : β → Prop} (first : r.Quiet) (second : (f r.value).Gives Q) :
    (r >>= f).Gives Q :=
  ⟨quiet_bind.mpr ⟨first, second.1⟩, second.2⟩

theorem Gives.andThen {Q : β → Prop} (first : r.Gives P) (second : ∀ a, P a → (f a).Gives Q) :
    (r >>= f).Gives Q :=
  .bind first.1 (second _ first.2)

theorem Gives.option {r : Report (Option α)} {f : Option α → Report β} {Q : β → Prop}
    (first : r.Gives fun o => ∀ a ∈ o, P a) (present : ∀ a, P a → (f (some a)).Gives Q)
    (absent : (f none).Gives Q) : (r >>= f).Gives Q := by
  refine .andThen first fun o given => ?_
  cases o with
  | none => exact absent
  | some a => exact present a (given a rfl)

theorem Gives.foldlM {P : β → Prop} {f : β → α → Report β} {items : List α} {start : β}
    (initial : P start) (each : ∀ b a, P b → (f b a).Gives P) :
    (items.foldlM f start).Gives P := by
  induction items generalizing start with
  | nil => exact ⟨quiet_pure, initial⟩
  | cons a rest ih =>
    rw [List.foldlM_cons]
    exact .andThen (each start a initial) fun b kept => ih kept

@[simp]
theorem quiet_complain {location : Location} {fault : Fault} :
    (complain location fault).Quiet ↔ fault.isImportNotFound = false := by
  simp [Quiet, complain]

@[simp]
theorem quiet_reject {location : Location} {fault : Fault} :
    (reject location fault : Report (Option α)).Quiet ↔ fault.isImportNotFound = false := by
  simp [Quiet, reject]

end

end Report

namespace Entry

section

variable {file parent : String} {node : Source.Node}

@[simp]
theorem quiet_scalar : (scalar file node).Quiet := by
  unfold scalar
  split <;> simp

@[simp]
theorem quiet_flag : (flag file node).Quiet := by
  unfold flag
  split <;> simp

@[simp]
theorem quiet_int : (int file node).Quiet := by
  unfold int
  rw [Report.quiet_bind]
  refine ⟨quiet_scalar, ?_⟩
  split
  · simp
  · split <;> simp

@[simp]
theorem quiet_sequence : (sequence file node).Quiet := by
  unfold sequence
  split <;> simp

@[simp]
theorem quiet_block : (block file node).Quiet := by
  unfold block
  split <;> simp

@[simp]
theorem quiet_name : (name file node).Quiet := by
  unfold name
  split <;> simp

@[simp]
theorem quiet_missing {α : Type} {entry : String} :
    (missing file node parent entry : Report (Option α)).Quiet := by
  simp [missing]

@[simp]
theorem value_missing {α : Type} {entry : String} :
    (missing file node parent entry : Report (Option α)).value = none := rfl

theorem fold_gives {σ : Type} {P : σ → Prop} {repeatable : String → Bool}
    {step : σ → Source.Node → Report (Option σ)} {seen : List String} {s : σ}
    {nodes : List Source.Node} (start : P s)
    (each : ∀ s node, P s → (step s node).Gives fun next => ∀ s ∈ next, P s) :
    (fold file parent repeatable step seen s nodes).Gives P := by
  induction nodes generalizing seen s with
  | nil => exact ⟨Report.quiet_pure, start⟩
  | cons node rest ih =>
    unfold fold
    split
    · obtain ⟨quiet, kept⟩ := @ih seen s start
      exact ⟨by simp [quiet], kept⟩
    · obtain ⟨quiet, kept⟩ := each s node start
      show ((step s node >>= _).Quiet ∧ P (step s node >>= _).value)
      rw [Report.quiet_bind, Report.value_bind]
      cases stepped : (step s node).value with
      | some next =>
        obtain ⟨quiet', kept'⟩ := ih (kept next stepped)
        exact ⟨⟨quiet, quiet'⟩, kept'⟩
      | none =>
        obtain ⟨quiet', kept'⟩ := ih start
        exact ⟨⟨quiet, by simp [quiet']⟩, kept'⟩

theorem quiet_foldOnce {σ : Type} {step : σ → Source.Node → Report (Option σ)} {s : σ}
    {nodes : List Source.Node} (each : ∀ s node, (step s node).Quiet) :
    (foldOnce file parent step s nodes).Quiet :=
  (fold_gives (P := fun _ => True) trivial fun s node _ => ⟨each s node, fun _ _ => trivial⟩).1

end

end Entry

section

variable {file : String} {node : Source.Node} {α : Type} {P : Option α → Prop}

theorem gives_block {f : List Source.Node → Report (Option α)} (refused : P none)
    (each : ∀ children, (f children).Gives P) :
    (do
      let some children ← Entry.block file node | return none
      f children).Gives P := by
  refine .bind Entry.quiet_block ?_
  split
  · exact each _
  · exact ⟨Report.quiet_pure, refused⟩

theorem gives_named {f : String → List Source.Node → Report (Option α)} (refused : P none)
    (each : ∀ name children, (f name children).Gives P) :
    (do
      let some name ← Entry.name file node | return none
      let some children ← Entry.block file node | return none
      f name children).Gives P := by
  refine .bind Entry.quiet_name ?_
  split
  · exact gives_block refused fun children => each _ children
  · exact ⟨Report.quiet_pure, refused⟩

end

section

variable {file : String} {node : Source.Node}

@[simp]
theorem quiet_readExpression : (readExpression file node).Quiet := by
  unfold readExpression
  split
  · simp
  · simp
  · simp
  · rw [Report.quiet_bind]
    refine ⟨Entry.quiet_foldOnce fun e child => ?_, ?_⟩
    · split <;> simp
    · split <;> simp
  · simp

@[simp]
theorem quiet_readTypeRef : (readTypeRef file node).Quiet := by
  unfold readTypeRef
  split <;> simp

theorem quiet_entries {σ : Type} {step : σ → Source.Node → Report (Option σ)} {start : σ}
    {parent : String} (each : ∀ s child, (step s child).Quiet) :
    (do
      let some children ← Entry.block file node | return none
      let read ← Entry.foldOnce file parent step start children
      return some read).Quiet := by
  refine (gives_block (P := fun _ => True) trivial fun children => ⟨?_, trivial⟩).1
  simp [Entry.quiet_foldOnce each]

@[simp]
theorem quiet_readValidator : (readValidator file node).Quiet := by
  refine quiet_entries fun v child => ?_
  split <;> simp

@[simp]
theorem quiet_readCondition : (readCondition file node).Quiet := by
  refine quiet_entries fun c child => ?_
  split <;> simp

@[simp]
theorem quiet_readOptionDefaults : (readOptionDefaults file node).Quiet := by
  refine quiet_entries fun d child => ?_
  split <;> simp

@[simp]
theorem quiet_readGlobals : (readGlobals file node).Quiet := by
  refine quiet_entries fun g child => ?_
  split <;> simp

theorem readType_gives : (readType file node).Gives fun t => ∀ d ∈ t, d.imported = false := by
  refine gives_named (by simp) fun name children => ?_
  refine .andThen (Entry.fold_gives (P := fun t => t.imported = false) rfl ?_) ?_
  · intro t child own
    split <;> simp [Report.Gives, own]
  · intro t own
    split
    · simp [Report.Gives]
    · split <;> simp [Report.Gives, own]

@[simp]
theorem quiet_readEnumValue : (readEnumValue file node).Quiet := by
  unfold readEnumValue
  rw [Report.quiet_bind]
  refine ⟨Entry.quiet_name, ?_⟩
  split
  · rw [Report.quiet_bind]
    refine ⟨Entry.quiet_scalar, ?_⟩
    split <;> simp
  · simp

theorem readEnum_gives : (readEnum file node).Gives fun e => ∀ d ∈ e, d.imported = false := by
  refine gives_named (by simp) fun name children => ?_
  refine .andThen (Entry.fold_gives (P := fun e => e.imported = false) rfl ?_) ?_
  · intro e child own
    split <;> simp [Report.Gives, own]
  · intro e own
    split
    · simp [Report.Gives]
    · split <;> simp [Report.Gives, own]

@[simp]
theorem quiet_readField : (readField file node).Quiet := by
  have entry (f : FieldDef) (child : Source.Node) : (readFieldEntry file f child).Quiet := by
    unfold readFieldEntry
    split
    all_goals try split
    all_goals simp
  have finished (f : FieldDef) :
      (if f.type.isNone && !f.ignore then Entry.missing file node "field" "type"
        else pure (some f) : Report (Option FieldDef)).Quiet := by
    split <;> simp
  unfold readField
  rw [Report.quiet_bind]
  refine ⟨Entry.quiet_name, ?_⟩
  split
  · dsimp only
    split
    · exact Report.quiet_bind.mpr ⟨Entry.quiet_foldOnce entry, finished _⟩
    · exact Report.quiet_bind.mpr ⟨Report.quiet_pure, finished _⟩
    · exact Report.quiet_bind.mpr ⟨quiet_readTypeRef, finished _⟩
  · simp

@[simp]
theorem quiet_readChained : (readChained file node).Quiet := by
  unfold readChained
  rw [Report.quiet_bind]
  refine ⟨Entry.quiet_name, ?_⟩
  split
  · split
    · simp
    · rw [Report.quiet_bind]
      refine ⟨Entry.quiet_scalar, ?_⟩
      split <;> simp
  · simp

theorem readStructEntry_gives {s : StructDef} :
    (readStructEntry file s node).Gives fun next => ∀ s' ∈ next, s'.imported = s.imported := by
  unfold readStructEntry
  split <;> simp [Report.Gives]

theorem readStruct_gives : (readStruct file node).Gives fun s => ∀ d ∈ s, d.imported = false := by
  refine gives_named (by simp) fun name children => ?_
  refine .andThen (Entry.fold_gives (P := fun s => s.imported = false) rfl ?_) ?_
  · intro s child own
    obtain ⟨quiet, kept⟩ : (readStructEntry file s child).Gives _ := readStructEntry_gives
    exact ⟨quiet, fun next given => (kept next given).trans own⟩
  · intro s own
    simp [Report.Gives, own]

theorem readCommandEntry_gives {d : CommandDraft} :
    (readCommandEntry file d node).Gives fun next =>
      ∀ d' ∈ next, d'.command.base.imported = d.command.base.imported := by
  unfold readCommandEntry
  split
  · simp [Report.Gives]
  · refine .bind Entry.quiet_scalar ?_
    split
    · simp [Report.Gives]
    · split <;> simp [Report.Gives]
  · simp [Report.Gives]
  · simp [Report.Gives]
  · simp [Report.Gives]
  · refine .andThen readStructEntry_gives fun next kept => ?_
    cases next with
    | some base => simpa [Report.Gives] using kept
    | none => simp [Report.Gives]

theorem readCommand_gives :
    (readCommand file node).Gives fun c => ∀ d ∈ c, d.base.imported = false := by
  refine gives_named (by simp) fun name children => ?_
  refine .andThen (Entry.fold_gives (P := fun d => d.command.base.imported = false) rfl ?_) ?_
  · intro d child own
    obtain ⟨quiet, kept⟩ : (readCommandEntry file d child).Gives _ := readCommandEntry_gives
    exact ⟨quiet, fun next given => (kept next given).trans own⟩
  · intro d own
    split <;> simp [Report.Gives, own]

@[simp]
theorem quiet_readParameter : (readParameter file node).Quiet := by
  refine (gives_named (P := fun _ => True) trivial fun name children => ⟨?_, trivial⟩).1
  rw [Report.quiet_bind]
  constructor
  · refine Entry.quiet_foldOnce fun p child => ?_
    unfold readParameterEntry
    split <;> simp
  · split <;> simp

@[simp]
theorem quiet_readOption : (readOption file node).Quiet := by
  refine (gives_named (P := fun _ => True) trivial fun name children => ⟨?_, trivial⟩).1
  rw [Report.quiet_bind]
  constructor
  · refine Entry.quiet_foldOnce fun o child => ?_
    unfold readOptionEntry
    split <;> simp
  · split
    · simp
    · split <;> simp

end

structure SymbolTable.Marked (imported : Bool) (t : SymbolTable) : Prop where
  commands : ∀ c ∈ t.commands, c.base.imported = imported
  enums : ∀ e ∈ t.enums, e.imported = imported
  structs : ∀ s ∈ t.structs, s.imported = imported
  types : ∀ d ∈ t.types, d.imported = imported

structure SymbolTable.Own (t : SymbolTable) : Prop where
  marked : t.Marked false
  distinct : t.Distinct

section

variable {file text : String} {node : Source.Node} {spec : Spec} {t u : SymbolTable}

theorem marked_empty {imported : Bool} : SymbolTable.Marked imported {} :=
  ⟨by simp, by simp, by simp, by simp⟩

theorem own_empty : SymbolTable.Own {} :=
  ⟨marked_empty, SymbolTable.distinct_empty⟩

theorem marked_append {imported : Bool} (left : t.Marked imported) (right : u.Marked imported) :
    (t ++ u).Marked imported := by
  obtain ⟨commands, enums, structs, types⟩ := SymbolTable.append_parts t u
  constructor
  · simpa [commands, or_imp, forall_and] using ⟨left.commands, right.commands⟩
  · simpa [enums, or_imp, forall_and] using ⟨left.enums, right.enums⟩
  · simpa [structs, or_imp, forall_and] using ⟨left.structs, right.structs⟩
  · simpa [types, or_imp, forall_and] using ⟨left.types, right.types⟩

theorem asImported_marked (t : SymbolTable) : t.asImported.Marked true := by
  constructor <;> simp [SymbolTable.asImported]

theorem insert_gives {location : Location} {name kind : String} {added : SymbolTable}
    (own : t.Own) (one : u.names = [name]) (mine : u.Marked false) (joined : added = t ++ u) :
    (t.insert location name kind added).Gives SymbolTable.Own := by
  unfold SymbolTable.insert
  split
  · exact ⟨by simp, own⟩
  · rename_i free
    subst joined
    refine ⟨Report.quiet_pure, marked_append own.marked mine, ?_⟩
    exact (SymbolTable.distinct_append_one own.distinct one).mpr (SymbolTable.kindOf?_none.mp free)

theorem gives_added {added : Report SymbolTable} (kept : added.Gives SymbolTable.Own) :
    (do return { spec with symbols := ← added }).Gives fun next : Spec => next.symbols.Own :=
  .andThen kept fun _ own => ⟨Report.quiet_pure, own⟩

theorem readTopLevel_gives (own : spec.symbols.Own) :
    (readTopLevel file spec node).Gives (·.symbols.Own) := by
  have joined (u : SymbolTable) : spec.symbols ++ u = SymbolTable.mk
      (spec.symbols.commands ++ u.commands) (spec.symbols.enums ++ u.enums)
      (spec.symbols.structs ++ u.structs) (spec.symbols.types ++ u.types) := rfl
  have unchanged : (pure spec : Report Spec).Gives (·.symbols.Own) := ⟨Report.quiet_pure, own⟩
  unfold readTopLevel
  split
  · split <;> simp [Report.Gives, own]
  · split
    · simp [Report.Gives, own]
    · refine .bind Entry.quiet_sequence ?_
      split <;> simp [Report.Gives, own]
  · refine .option readType_gives (fun d mine => gives_added ?_) unchanged
    refine insert_gives (u := { types := [d] }) own rfl ?_ (by simp [joined])
    exact ⟨by simp, by simp, by simp, by simpa using mine⟩
  · refine .option readEnum_gives (fun d mine => gives_added ?_) unchanged
    refine insert_gives (u := { enums := [d] }) own rfl ?_ (by simp [joined])
    exact ⟨by simp, by simpa using mine, by simp, by simp⟩
  · refine .option readStruct_gives (fun d mine => gives_added ?_) unchanged
    refine insert_gives (u := { structs := [d] }) own rfl ?_ (by simp [joined])
    exact ⟨by simp, by simp, by simpa using mine, by simp⟩
  · refine .option readCommand_gives (fun d mine => gives_added ?_) unchanged
    refine insert_gives (u := { commands := [d] }) own rfl ?_ (by simp [joined])
    exact ⟨by simpa using mine, by simp, by simp, by simp⟩
  · simp [Report.Gives, own]
  · simp [Report.Gives, own]
  · simp [Report.Gives, own]

theorem readSpec_gives {nodes : List Source.Node} :
    (readSpec file nodes).Gives (·.symbols.Own) :=
  .foldlM own_empty fun _ _ own => readTopLevel_gives own

theorem parseText_gives : (parseText text file).Gives (·.symbols.Own) := by
  unfold parseText
  split
  · exact readSpec_gives
  · exact ⟨by simp [Report.Quiet], own_empty⟩

theorem quiet_addImported {other : SymbolTable} : (t.addImported other).Quiet := by
  have inserted {t added : SymbolTable} {location : Location} {name kind : String} :
      (t.insert location name kind added).Quiet := by
    unfold SymbolTable.insert
    split <;> simp
  have folded {α : Type} {add : SymbolTable → α → Report SymbolTable} {items : List α}
      {t : SymbolTable} (each : ∀ t a, (add t a).Quiet) : (items.foldlM add t).Quiet :=
    (Report.Gives.foldlM (P := fun _ => True) trivial fun t a _ => ⟨each t a, trivial⟩).1
  unfold SymbolTable.addImported
  simp only [Report.quiet_bind]
  exact ⟨folded fun _ _ => inserted, folded fun _ _ => inserted, folded fun _ _ => inserted,
    folded fun _ _ => inserted⟩

end

def importsOf (file : String) (node : Source.Node) : Option Imports :=
  if node.key = "imports" then
    (Entry.sequence file node).value.map fun files =>
      { location := nodeLocation file node, files }
  else none

section

variable {file : String} {node : Source.Node} {spec : Spec}

theorem readTopLevel_imports :
    (readTopLevel file spec node).value.imports = spec.imports.or (importsOf file node) := by
  have kept (key : node.key ≠ "imports") :
      spec.imports.or (importsOf file node) = spec.imports := by
    simp [importsOf, key]
  unfold readTopLevel
  split
  case h_1 key =>
    rw [kept (by simp [key])]
    split <;> rfl
  case h_2 key =>
    rw [importsOf, if_pos key]
    cases first : spec.imports with
    | some imports => simp [first]
    | none => cases read : (Entry.sequence file node).value <;> simp [first, read]
  case h_3 key | h_4 key | h_5 key | h_6 key =>
    rw [kept (by simp [key]), Report.value_bind]
    split <;> rfl
  case h_7 key | h_8 key =>
    rw [kept (by simp [key])]
    rfl
  case h_9 other _ _ _ _ _ _ =>
    rw [kept other]
    rfl

theorem readSpec_imports {nodes : List Source.Node} :
    (readSpec file nodes).value.imports = nodes.findSome? (importsOf file) := by
  have general (start : Spec) :
      (nodes.foldlM (readTopLevel file) start).value.imports =
        start.imports.or (nodes.findSome? (importsOf file)) := by
    induction nodes generalizing start with
    | nil => simp
    | cons node rest ih =>
      rw [List.foldlM_cons, Report.value_bind, ih, readTopLevel_imports, Option.or_assoc]
      congr 1
      rw [List.findSome?_cons]
      cases importsOf file node <;> rfl
  exact (general {}).trans (by simp)

end

end WireSchema.Schema
