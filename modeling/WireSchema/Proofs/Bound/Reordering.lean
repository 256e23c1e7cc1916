import WireSchema.Proofs.Bound.Layout
import WireSchema.Proofs.Schema.Declarations

namespace WireSchema.Bound

open Schema (CommandDef Diagnostic EnumDef Library OptionDef OptionDefaults ParameterDef Report Spec
  StructDef SymbolTable TypeDef assemble part)
open Source (Node)

-- Binding asks its table what a name stands for and nothing else, so tables that agree on all names
-- bind every definition alike.

section

variable {t u : SymbolTable}

theorem resolve?_agrees (agrees : t.Agrees u) : t.resolve? = u.resolve? := by
  funext name
  unfold SymbolTable.resolve?
  rw [agrees.type?, agrees.enum?, agrees.struct?]

theorem resolveField_agrees (agrees : t.Agrees u) : t.resolveField = u.resolveField := by
  have lookup : t.lookup = u.lookup := by
    funext name
    unfold SymbolTable.lookup
    rw [resolve?_agrees agrees]
  have alternatives (refs : List Schema.TypeRef) :
      t.lookupAlternatives refs = u.lookupAlternatives refs := by
    induction refs with
    | nil => rfl
    | cons ref rest ih =>
      cases ref with
      | single name => simp only [SymbolTable.lookupAlternatives, lookup, ih]
      | array element => rfl
      | variant refs => rfl
  have ref : t.resolveRef = u.resolveRef := by
    funext type
    cases type <;> simp only [SymbolTable.resolveRef, lookup, alternatives]
  funext location field type
  unfold SymbolTable.resolveField
  rw [ref]

theorem bindFieldKind_agrees (agrees : t.Agrees u) : bindFieldKind t = bindFieldKind u := by
  funext location field type variantName
  unfold bindFieldKind
  rw [resolveField_agrees agrees]

theorem bindField_agrees (agrees : t.Agrees u) : bindField t = bindField u := by
  have kind : declaredKind t = declaredKind u := by
    funext f variantName
    unfold declaredKind
    rw [bindFieldKind_agrees agrees, agrees.type?]
  have default : bindDefault t = bindDefault u := by
    funext location field e kind
    cases kind with
    | enum target => simp only [bindDefault, agrees.enum?]
    | _ => rfl
  funext owner f
  unfold bindField
  rw [kind, default]

theorem bindFields_agrees (agrees : t.Agrees u) : bindFields t = bindFields u := by
  have field := bindField_agrees agrees
  have chainedType : bindChainedType t = bindChainedType u := by
    funext s c
    unfold bindChainedType
    rw [resolve?_agrees agrees]
  have inlined (c : Schema.Chained) (target : StructDef) (member : String)
      (fields : List Schema.FieldDef) :
      inlineFields t c target member fields = inlineFields u c target member fields := by
    induction fields with
    | nil => rfl
    | cons f rest ih =>
      unfold inlineFields inlineField
      rw [field, ih]
  have chainedStruct : bindChainedStruct t = bindChainedStruct u := by
    funext s c
    unfold bindChainedStruct
    simp only [agrees.struct?, resolve?_agrees agrees, inlined]
  have own (rustName : String) (fields : List Schema.FieldDef) :
      bindOwnFields t rustName fields = bindOwnFields u rustName fields := by
    induction fields with
    | nil => rfl
    | cons f rest ih =>
      unfold bindOwnFields
      rw [field, ih]
  have db : dbNameField? t = dbNameField? u := by
    unfold dbNameField?
    rw [agrees.type?]
  funext s isCommand
  unfold bindFields
  rw [chainedType, chainedStruct, own, db]

theorem bindStruct_agrees (agrees : t.Agrees u) : bindStruct t = bindStruct u := by
  funext s isCommand
  unfold bindStruct
  rw [bindFields_agrees agrees]

theorem bindCommand_agrees (agrees : t.Agrees u) : bindCommand t = bindCommand u := by
  have element : bindCommandField t = bindCommandField u := by
    funext c
    unfold bindCommandField
    rw [bindFieldKind_agrees agrees]
  have reply : checkReplyType t = checkReplyType u := by
    funext c
    unfold checkReplyType
    simp only [agrees.struct?]
  funext c
  unfold bindCommand
  rw [bindStruct_agrees agrees, element, reply]

end

def AllBound {α β : Type} (bind : α → Report (Option β)) (items : List α) : Prop :=
  ∀ a ∈ items, ∃ b, bind a = pure (some b)

def boundOf {α β : Type} (bind : α → Report (Option β)) (items : List α) : List β :=
  items.filterMap fun a => (bind a).value

section

variable {α β : Type} {bind : α → Report (Option β)} {items : List α} {out : List β}

theorem forall₂_bound : List.Forall₂ (fun a b => bind a = pure (some b)) items out ↔
    AllBound bind items ∧ out = boundOf bind items := by
  induction items generalizing out with
  | nil => simp [AllBound, boundOf]
  | cons a rest ih =>
    have first {b : β} (here : bind a = pure (some b)) :
        boundOf bind (a :: rest) = b :: boundOf bind rest := by
      simp [boundOf, here]
    constructor
    · intro each
      cases each with
      | cons here others =>
        obtain ⟨bound, rfl⟩ := ih.mp others
        exact ⟨List.forall_mem_cons.mpr ⟨⟨_, here⟩, bound⟩, (first here).symm⟩
    · rintro ⟨bound, rfl⟩
      obtain ⟨⟨b, here⟩, others⟩ := List.forall_mem_cons.mp bound
      rw [first here]
      exact .cons here (ih.mpr ⟨others, rfl⟩)

theorem AllBound.perm {items' : List α} (perm : items.Perm items') (bound : AllBound bind items) :
    AllBound bind items' :=
  fun a member => bound a (perm.mem_iff.mpr member)

end

def defaultsOf (spec : Spec) : Option OptionDefaults :=
  spec.globals.bind (·.options)

def globalsOf (spec : Spec) : Globals :=
  match spec.globals with
  | some g =>
    { rustModule := g.rustModule, uses := g.uses, initializer := g.options.bind (·.initializer) }
  | none => {}

-- The definitions of `own` can all be bound, with names looked up in `symbols`.
structure Bindable (symbols : SymbolTable) (own : Spec) : Prop where
  types : ∀ t ∈ own.symbols.types, checkType t = pure ()
  enums : AllBound bindEnum own.symbols.enums
  structs : AllBound (bindStruct symbols · false) own.symbols.structs
  commands : AllBound (bindCommand symbols) own.symbols.commands
  parameters : AllBound bindParameter own.parameters
  parameterNames : (own.parameters.map (·.name)).Nodup
  options : AllBound (bindOption (defaultsOf own)) own.options
  optionNames : (own.options.map (·.name)).Nodup

def boundIdl (symbols : SymbolTable) (own : Spec) : Idl where
  globals := globalsOf own
  enums := boundOf bindEnum own.symbols.enums
  structs := boundOf (bindStruct symbols · false) own.symbols.structs ++
    boundOf (bindCommand symbols) own.symbols.commands
  parameters := boundOf bindParameter own.parameters
  options := boundOf (bindOption (defaultsOf own)) own.options

section

variable {own : Spec} {extra : SymbolTable} {imports : Option Schema.Imports} {idl : Idl}

theorem filter_own {α : Type} {imported : α → Bool} {mine theirs : List α}
    (own : ∀ a ∈ mine, imported a = false) (other : ∀ a ∈ theirs, imported a = true) :
    (mine ++ theirs).filter (!imported ·) = mine := by
  rw [List.filter_append, List.filter_eq_self.mpr (by simpa using own),
    List.filter_eq_nil_iff.mpr (by simpa using other), List.append_nil]

theorem bind_closed (mine : own.symbols.Marked false) (theirs : extra.Marked true) :
    bind { own with symbols := own.symbols ++ extra, imports } = .ok idl ↔
      Bindable (own.symbols ++ extra) own ∧ idl = boundIdl (own.symbols ++ extra) own := by
  obtain ⟨commands, enums, structs, types⟩ := SymbolTable.append_parts own.symbols extra
  have bound : bind { own with symbols := own.symbols ++ extra, imports } = .ok idl ↔ (do
      own.symbols.types.forM checkType
      let enums ← bindEach bindEnum own.symbols.enums
      let structs ← bindEach (bindStruct (own.symbols ++ extra) · false) own.symbols.structs
      let commands ← bindEach (bindCommand (own.symbols ++ extra)) own.symbols.commands
      let parameters ← bindParameters own.parameters
      let options ← bindOptions (defaultsOf own) own.options
      return { globals := globalsOf own, enums, structs := structs ++ commands, parameters, options
        : Idl }) = pure idl := by
    unfold bind
    rw [Report.toExcept_exact]
    unfold bindAll
    simp only [commands, enums, structs, types, filter_own mine.commands theirs.commands,
      filter_own mine.enums theirs.enums, filter_own mine.structs theirs.structs,
      filter_own mine.types theirs.types]
    rfl
  rw [bound]
  simp only [Report.bind_clean, bindEach_exact bindEnum_keeps, bindEach_exact bindStruct_keeps,
    bindEach_exact bindCommand_keeps, bindParameters, bindOptions,
    bindNamed_exact bindParameter_keeps, bindNamed_exact bindOption_keeps, forall₂_bound,
    Report.pure_clean]
  constructor
  · rintro ⟨_, types, _, ⟨enums, rfl⟩, _, ⟨structs, rfl⟩, _, ⟨commands, rfl⟩, _,
      ⟨parameterNames, -, parameters, rfl⟩, _, ⟨optionNames, -, options, rfl⟩, rfl⟩
    exact ⟨⟨Report.forM_clean.mp types, enums, structs, commands, parameters, parameterNames,
      options, optionNames⟩, rfl⟩
  · rintro ⟨b, rfl⟩
    exact ⟨(), Report.forM_clean.mpr b.types, _, ⟨b.enums, rfl⟩, _, ⟨b.structs, rfl⟩, _,
      ⟨b.commands, rfl⟩, _, ⟨b.parameterNames, by simp, b.parameters, rfl⟩, _,
      ⟨b.optionNames, by simp, b.options, rfl⟩, rfl⟩

end

section

variable {s u : Spec} {symbols symbols' : SymbolTable}

theorem Bindable.reordered (bindable : Bindable symbols s) (reordered : s.Reordered u)
    (agrees : symbols.Agrees symbols') : Bindable symbols' u := by
  have defaults : defaultsOf s = defaultsOf u := by
    rw [defaultsOf, defaultsOf, reordered.globals]
  obtain ⟨commands, enums, structs, types⟩ := reordered.symbols
  exact {
    types := fun t member => bindable.types t (types.mem_iff.mpr member)
    enums := bindable.enums.perm enums
    structs := bindStruct_agrees agrees ▸ bindable.structs.perm structs
    commands := bindCommand_agrees agrees ▸ bindable.commands.perm commands
    parameters := bindable.parameters.perm reordered.parameters
    parameterNames := (reordered.parameters.map _).nodup_iff.mp bindable.parameterNames
    options := defaults ▸ bindable.options.perm reordered.options
    optionNames := (reordered.options.map _).nodup_iff.mp bindable.optionNames }

theorem boundIdl_agrees (agrees : symbols.Agrees symbols') :
    boundIdl symbols s = boundIdl symbols' s := by
  unfold boundIdl
  rw [bindStruct_agrees agrees, bindCommand_agrees agrees]

end

def compile (library : Library) (fuel : Nat) (file : String) (nodes : List Node) :
    Except (List Diagnostic) Idl := do
  let spec ← (Schema.readSpec file nodes >>= fun spec => spec.close library fuel file).toExcept
  bind spec

-- A text that follows the grammar goes the same way.
theorem compile_text {library : Library} {fuel : Nat} {text file : String} {nodes : List Node}
    (parsed : Source.tokenize text >>= Source.parseNodes = .ok nodes) :
    (Schema.follow fuel library text file).toExcept >>= bind =
      compile library fuel file nodes := by
  unfold Schema.follow Schema.parseText
  rw [parsed]
  rfl

structure Share where
  enums : List Enum
  structs : List Struct
  commands : List Struct
  parameters : List Parameter
  options : List OptionEntry

def share (symbols : SymbolTable) (defaults : Option OptionDefaults) (file : String) (node : Node) :
    Share where
  enums := boundOf bindEnum (part file node).symbols.enums
  structs := boundOf (bindStruct symbols · false) (part file node).symbols.structs
  commands := boundOf (bindCommand symbols) (part file node).symbols.commands
  parameters := boundOf bindParameter (part file node).parameters
  options := boundOf (bindOption defaults) (part file node).options

structure Gathered (share : Node → Share) (nodes : List Node) (idl : Idl) : Prop where
  enums : idl.enums = nodes.flatMap fun n => (share n).enums
  structs : idl.structs =
    (nodes.flatMap fun n => (share n).structs) ++ nodes.flatMap fun n => (share n).commands
  parameters : idl.parameters = nodes.flatMap fun n => (share n).parameters
  options : idl.options = nodes.flatMap fun n => (share n).options

section

variable {library : Library} {fuel : Nat} {file : String} {nodes nodes' : List Node}
  {idl idl' : Idl}

theorem boundOf_flatMap {α β : Type} {bind : α → Report (Option β)} {f : Node → List α} :
    boundOf bind (nodes.flatMap f) = nodes.flatMap fun n => boundOf bind (f n) :=
  List.filterMap_flatMap ..

theorem boundIdl_gathered {symbols : SymbolTable} :
    Gathered (share symbols (defaultsOf (assemble file nodes)) file) nodes
      (boundIdl symbols (assemble file nodes)) where
  enums := boundOf_flatMap
  structs := congrArg₂ (· ++ ·) boundOf_flatMap boundOf_flatMap
  parameters := boundOf_flatMap
  options := boundOf_flatMap

theorem readSpec_own {spec : Spec} (read : Schema.readSpec file nodes = pure spec) :
    spec.symbols.Own := by
  have given : (Schema.readSpec file nodes).Gives (·.symbols.Own) := Schema.readSpec_gives
  rw [read] at given
  exact given.2

-- One direction, with both results laid open.
theorem compile_perm (perm : nodes.Perm nodes') (ran : compile library fuel file nodes = .ok idl) :
    ∃ symbols, idl = boundIdl symbols (assemble file nodes) ∧
      compile library fuel file nodes' = .ok (boundIdl symbols (assemble file nodes')) ∧
      (assemble file nodes).Reordered (assemble file nodes') := by
  obtain ⟨closed, followed, bound⟩ := bind_ok_exact.mp ran
  obtain ⟨spec, read, ran⟩ := Report.bind_clean.mp (Report.toExcept_exact.mp followed)
  obtain ⟨rfl, read', reordered⟩ := Schema.readSpec_perm perm read
  have own := readSpec_own read
  have own' := readSpec_own read'
  obtain ⟨extra, theirs, distinct, whole, ran'⟩ :=
    Schema.close_reordered reordered own.distinct ran
  rw [whole] at bound
  obtain ⟨bindable, rfl⟩ := (bind_closed own.marked theirs).mp bound
  have agrees := (reordered.symbols.append_right extra).agrees distinct
  refine ⟨_, rfl, ?_, reordered⟩
  rw [boundIdl_agrees agrees]
  exact bind_ok_exact.mpr
    ⟨_, Report.toExcept_exact.mpr (Report.bind_clean.mpr ⟨_, read', ran'⟩),
      (bind_closed own'.marked theirs).mpr ⟨bindable.reordered reordered agrees, rfl⟩⟩

theorem Gathered.perm {share : Node → Share} (perm : nodes.Perm nodes')
    (gathered : Gathered share nodes idl) (gathered' : Gathered share nodes' idl') :
    idl.enums.Perm idl'.enums ∧ idl.structs.Perm idl'.structs ∧
      idl.parameters.Perm idl'.parameters ∧ idl.options.Perm idl'.options := by
  rw [gathered.enums, gathered.structs, gathered.parameters, gathered.options, gathered'.enums,
    gathered'.structs, gathered'.parameters, gathered'.options]
  exact ⟨perm.flatMap_right _, (perm.flatMap_right _).append (perm.flatMap_right _),
    perm.flatMap_right _, perm.flatMap_right _⟩

theorem compile_reordered (library : Library) (fuel : Nat) (file : String)
    (perm : nodes.Perm nodes') :
    ((∃ idl, compile library fuel file nodes = .ok idl) ↔
      ∃ idl, compile library fuel file nodes' = .ok idl) ∧
    ∀ idl idl', compile library fuel file nodes = .ok idl →
      compile library fuel file nodes' = .ok idl' →
      idl.globals = idl'.globals ∧ idl.enums.Perm idl'.enums ∧ idl.structs.Perm idl'.structs ∧
      idl.parameters.Perm idl'.parameters ∧ idl.options.Perm idl'.options ∧
      ∃ symbols defaults, Gathered (share symbols defaults file) nodes idl ∧
        Gathered (share symbols defaults file) nodes' idl' := by
  refine ⟨⟨?_, ?_⟩, ?_⟩
  · rintro ⟨idl, ran⟩
    obtain ⟨symbols, -, ran', -⟩ := compile_perm perm ran
    exact ⟨_, ran'⟩
  · rintro ⟨idl, ran⟩
    obtain ⟨symbols, -, ran', -⟩ := compile_perm perm.symm ran
    exact ⟨_, ran'⟩
  · intro idl idl' ran ran'
    obtain ⟨symbols, rfl, again, reordered⟩ := compile_perm perm ran
    cases ran'.symm.trans again
    have defaults : defaultsOf (assemble file nodes) = defaultsOf (assemble file nodes') := by
      rw [defaultsOf, defaultsOf, reordered.globals]
    have globals : globalsOf (assemble file nodes) = globalsOf (assemble file nodes') := by
      rw [globalsOf, globalsOf, reordered.globals]
    have gathered : Gathered _ nodes' (boundIdl symbols (assemble file nodes')) :=
      boundIdl_gathered
    rw [← defaults] at gathered
    obtain ⟨enums, structs, parameters, options⟩ := boundIdl_gathered.perm perm gathered
    exact ⟨globals, enums, structs, parameters, options, _, _, boundIdl_gathered, gathered⟩

end

section

def gardenNode (line : Nat) (key : String) (name : Option String)
    (content : Source.Content Node) : Node :=
  { key, name, content, position := ⟨line, 1⟩ }

def gardenEntry (line : Nat) (key : String) (name : Option String) (value : String) : Node :=
  gardenNode line key name (.scalar (.name value))

-- Definitions that are used before they are made, and one that is imported.
def gardenNodes : List Node :=
  [gardenNode 1 "struct" (some "tree") (.block [
      gardenNode 2 "chained_struct" (some "root") .flag,
      gardenEntry 3 "field" (some "leaf") "leaf"]),
    gardenNode 4 "command" (some "grow") (.block [
      gardenEntry 5 "namespace" none "ignored",
      gardenEntry 6 "field" (some "tree") "tree"]),
    gardenNode 7 "struct" (some "leaf") (.block [
      gardenEntry 8 "field" (some "color") "color",
      gardenEntry 9 "field" (some "vein") "vein"]),
    gardenNode 10 "enum" (some "color") (.block [
      gardenEntry 11 "type" none "string",
      gardenEntry 12 "value" (some "green") "g"]),
    gardenNode 13 "imports" none (.list [.name "base"]),
    gardenNode 14 "struct" (some "root") (.block [gardenEntry 15 "field" (some "depth") "int"])]

def gardenLibrary : Library :=
  .ofTexts [("base", "struct vein \x7b \x7d")]

theorem compile_reordered_garden :
    ∃ idl idl', compile gardenLibrary 1 "garden" gardenNodes = .ok idl ∧
      compile gardenLibrary 1 "garden" gardenNodes.reverse = .ok idl' ∧
      idl.structs.map (·.name) = ["tree", "leaf", "root", "grow"] ∧
      idl'.structs.map (·.name) = ["root", "leaf", "tree", "grow"] ∧
      idl.structs.Perm idl'.structs ∧ idl.enums = idl'.enums := by
  have perm : gardenNodes.Perm gardenNodes.reverse := (List.reverse_perm _).symm
  have names : (compile gardenLibrary 1 "garden" gardenNodes).toOption.map
      (fun idl => idl.structs.map (·.name)) = some ["tree", "leaf", "root", "grow"] := by
    decide +kernel
  have names' : (compile gardenLibrary 1 "garden" gardenNodes.reverse).toOption.map
      (fun idl => (idl.structs.map (·.name), idl.enums.length)) =
        some (["root", "leaf", "tree", "grow"], 1) := by
    decide +kernel
  obtain ⟨same, both⟩ := compile_reordered gardenLibrary 1 "garden" perm
  cases ran : compile gardenLibrary 1 "garden" gardenNodes with
  | error found =>
    rw [ran] at names
    cases names
  | ok idl =>
    obtain ⟨idl', ran'⟩ := same.mp ⟨idl, ran⟩
    obtain ⟨-, enums, structs, -⟩ := both idl idl' ran ran'
    rw [ran] at names
    rw [ran'] at names'
    obtain ⟨ordered, one⟩ := Prod.mk.inj (Option.some.inj names')
    refine ⟨idl, idl', rfl, ran', Option.some.inj names, ordered, structs, ?_⟩
    obtain ⟨e, single⟩ := List.length_eq_one_iff.mp one
    rw [single] at enums ⊢
    exact List.perm_singleton.mp enums

end

end WireSchema.Bound
