import WireSchema.Bound.Binding
import WireSchema.Proofs.Bound.Declared

namespace WireSchema.Bound

open Schema (Chained CommandDef EnumDef FieldDef Location OptionDef OptionDefaults ParameterDef
  Report Spec StructDef SymbolTable fieldAt lineOf)

-- Binding drops an item in many places, but never without a fault, so a schema that is bound has
-- lost nothing.

inductive Origin where
  | chainedType (c : Chained)
  | chainedStruct (c : Chained)
  | inlined (c : Chained) (target : StructDef) (f : FieldDef)
  | own (f : FieldDef)
  | database

def chainLayout (symbols : SymbolTable) (s : StructDef) (c : Chained) : List Origin :=
  .chainedStruct c ::
    if s.inlineChained then
      (symbols.struct? c.name).toList.flatMap fun target => target.fields.map (.inlined c target)
    else []

def layout (symbols : SymbolTable) (s : StructDef) (isCommand : Bool) : List Origin :=
  s.chainedTypes.map .chainedType ++ s.chainedStructs.flatMap (chainLayout symbols s) ++
    s.fields.map .own ++ if isCommand then [.database] else []

def ComesFrom (symbols : SymbolTable) (owner : String) : Origin → Field → Prop
  | .chainedType c, b =>
    ∃ t, symbols.resolve? c.name = some (.type t) ∧ b = chainedMember c (.basic (basicTypeOf t))
  | .chainedStruct c, b =>
    ∃ target, symbols.struct? c.name = some target ∧
      b = chainedMember c (.struct (structRefOf target))
  | .inlined c target f, b =>
    ∃ inner, FieldOf symbols (structRustName target) f inner ∧
      b = { inner with owner := some (memberNameOf c.rustName) }
  | .own f, b => FieldOf symbols owner f b
  | .database, b => dbNameField? symbols = some b

def EnumOf (e : EnumDef) (b : Enum) : Prop :=
  b = { name := e.name, rustName := enumRustName e, description := e.description
        type := enumTypeOf e
        values := e.values.map fun v => ⟨v.name, Emit.enumeratorName v.name, v.value⟩ }

def structWith (s : StructDef) (fields : List Field) (command : Option Command) : Struct :=
  { name := s.name, rustName := structRustName s, description := s.description
    strict := s.strict, immutable := s.immutable, inlineChained := s.inlineChained
    comparable := s.comparable, fields, command }

def StructOf (symbols : SymbolTable) (s : StructDef) (b : Struct) : Prop :=
  ∃ fields, List.Forall₂ (ComesFrom symbols (structRustName s)) (layout symbols s false) fields ∧
    b = structWith s fields none

def ElementOf (symbols : SymbolTable) (c : CommandDef) : Option Field → Prop
  | none => c.commandType = none
  | some f => ∃ type kind array, c.commandType = some type ∧
      KindOf symbols (structRustName c.base ++ "CommandParameter") (some type) kind array ∧
      f = { name := c.commandName, rustName := "command_parameter", kind, array }

def CommandOf (symbols : SymbolTable) (c : CommandDef) (b : Struct) : Prop :=
  ∃ fields element,
    List.Forall₂ (ComesFrom symbols (structRustName c.base)) (layout symbols c.base true) fields ∧
      ElementOf symbols c element ∧
      b = structWith c.base fields (some {
        commandName := c.commandName, namespaceRule := c.namespaceRule, commandField := element
        apiVersion := c.apiVersion, replyType := c.replyType })

def ParameterOf (p : ParameterDef) (b : Parameter) : Prop :=
  ∃ setAt, setAtOf? p.setAt = some setAt ∧
    b = { name := p.name, description := p.description, setAt, rustType := p.rustType
          rustVariable := p.rustVariable, condition := p.condition
          deprecatedNames := p.deprecatedNames, redact := p.redact, testOnly := p.testOnly
          default := p.default, validator := bindValidator p.validator, onUpdate := p.onUpdate
          fromString := p.fromString, appendBson := p.appendBson }

-- Sources and section of an option come from the file's defaults where it gives none.
def OptionOf (defaults : Option OptionDefaults) (o : OptionDef) (b : OptionEntry) : Prop :=
  ∃ type composing, Settings.OptionType.ofName? (o.argType.getD "") = some type ∧
    composingOf? o.duplicates = some composing ∧
    b = { name := o.name
          singleName := (o.singleName.map fun s => o.shortName.getD o.name ++ "," ++ s).getD
            (o.shortName.getD o.name)
          deprecatedNames := o.deprecatedNames, deprecatedShortNames := o.deprecatedShortNames
          description := o.description.getD ""
          sectionName := o.sectionName.or (defaults.bind (·.sectionName)), type
          rustType := o.rustType, rustVariable := o.rustVariable, condition := o.condition
          conflicts := o.conflicts, requires := o.requires, hidden := o.hidden, redact := o.redact
          default := o.default, implicit := o.implicit
          sources := if o.source.isEmpty then (defaults.map (·.source)).getD [] else o.source
          composing, positional := o.positional.bind positionalOf?
          validator := bindValidator o.validator }

section

variable {symbols : SymbolTable} {s : StructDef} {c : Chained} {owner : String}
  {placed : List Placed}

theorem bindChainedType_comesFrom (bound : bindChainedType symbols s c = pure placed) :
    List.Forall₂ (ComesFrom symbols owner) [.chainedType c] (placed.map (·.1)) := by
  unfold bindChainedType at bound
  split at bound
  · exact absurd bound Report.complain_bind
  · rename_i t known
    split at bound
    · exact absurd bound Report.complain_bind
    · simp only at bound
      split at bound
      · exact absurd bound Report.complain_bind
      · cases Report.pure_clean.mp bound
        exact .cons ⟨t, known, rfl⟩ .nil
  · exact absurd bound Report.complain_bind

theorem chainedMember_rustName (kind : FieldKind) :
    (chainedMember c kind).rustName = memberNameOf c.rustName := by
  simp only [chainedMember]

theorem inlineFields_comeFrom {target : StructDef} {fields : List FieldDef}
    (bound : inlineFields symbols c target (memberNameOf c.rustName) fields = pure placed) :
    List.Forall₂ (ComesFrom symbols owner) (fields.map (.inlined c target))
      (placed.map (·.1)) := by
  induction fields generalizing placed with
  | nil =>
    cases Report.pure_clean.mp bound
    exact .nil
  | cons f rest ih =>
    obtain ⟨first, inlined, bound⟩ := Report.bind_clean.mp bound
    obtain ⟨more, others, bound⟩ := Report.bind_clean.mp bound
    cases Report.pure_clean.mp bound
    obtain ⟨found, declared, inlined⟩ := Report.bind_clean.mp inlined
    obtain ⟨b, rfl, fieldOf⟩ := bindField_fieldOf declared
    simp only at inlined
    split at inlined
    · exact absurd inlined Report.complain_bind
    · cases Report.pure_clean.mp inlined
      exact .cons ⟨b, fieldOf, rfl⟩ (ih others)

theorem bindChainedStruct_comesFrom (bound : bindChainedStruct symbols s c = pure placed) :
    List.Forall₂ (ComesFrom symbols owner) (chainLayout symbols s c) (placed.map (·.1)) := by
  unfold bindChainedStruct at bound
  split at bound
  · exact absurd bound Report.complain_bind
  · rename_i target known
    have member : ComesFrom symbols owner (.chainedStruct c)
        (chainedMember c (.struct (structRefOf target))) := ⟨target, known, rfl⟩
    unfold chainLayout
    split at bound
    · exact absurd bound Report.complain_bind
    · simp only at bound
      split at bound
      · rename_i apart
        split at bound
        · exact absurd bound Report.complain_bind
        · cases Report.pure_clean.mp bound
          rw [if_neg (by simpa using apart)]
          exact .cons member .nil
      · rename_i inlines
        split at bound
        · exact absurd bound Report.complain_bind
        · obtain ⟨inlined, ran, bound⟩ := Report.bind_clean.mp bound
          cases Report.pure_clean.mp bound
          rw [if_pos (by simpa using inlines), known, Option.toList_some, List.flatMap_singleton]
          rw [chainedMember_rustName] at ran
          exact .cons member (inlineFields_comeFrom ran)

theorem bindOwnFields_comeFrom {fields : List FieldDef}
    (bound : bindOwnFields symbols owner fields = pure placed) :
    List.Forall₂ (ComesFrom symbols owner) (fields.map .own) (placed.map (·.1)) := by
  induction fields generalizing placed with
  | nil =>
    cases Report.pure_clean.mp bound
    exact .nil
  | cons f rest ih =>
    obtain ⟨found, declared, bound⟩ := Report.bind_clean.mp bound
    obtain ⟨more, others, bound⟩ := Report.bind_clean.mp bound
    cases Report.pure_clean.mp bound
    obtain ⟨b, rfl, fieldOf⟩ := bindField_fieldOf declared
    exact .cons fieldOf (ih others)

theorem mapM_comeFrom {bind : Chained → Report (List Placed)} {part : Chained → List Origin}
    {chained : List Chained} {parts : List (List Placed)} (bound : chained.mapM bind = pure parts)
    (each : ∀ c placed, bind c = pure placed →
      List.Forall₂ (ComesFrom symbols owner) (part c) (placed.map (·.1))) :
    List.Forall₂ (ComesFrom symbols owner) (chained.flatMap part)
      (parts.flatten.map (·.1)) := by
  induction chained generalizing parts with
  | nil =>
    rw [List.mapM_nil, Report.pure_clean] at bound
    rw [← bound]
    exact .nil
  | cons c rest ih =>
    rw [List.mapM_cons] at bound
    obtain ⟨first, here, bound⟩ := Report.bind_clean.mp bound
    obtain ⟨more, others, bound⟩ := Report.bind_clean.mp bound
    cases Report.pure_clean.mp bound
    rw [List.flatMap_cons, List.flatten_cons, List.map_append]
    exact List.rel_append (each c first here) (ih others)

theorem bindFields_comeFrom {isCommand : Bool}
    (bound : bindFields symbols s isCommand = pure placed) :
    List.Forall₂ (ComesFrom symbols (structRustName s)) (layout symbols s isCommand)
      (placed.map (·.1)) := by
  obtain ⟨types, chainedTypes, bound⟩ := Report.bind_clean.mp bound
  obtain ⟨structs, chainedStructs, bound⟩ := Report.bind_clean.mp bound
  obtain ⟨own, fields, bound⟩ := Report.bind_clean.mp bound
  cases Report.pure_clean.mp bound
  have first : List.Forall₂ (ComesFrom symbols (structRustName s))
      (s.chainedTypes.flatMap fun c => [.chainedType c]) (types.flatten.map (·.1)) :=
    mapM_comeFrom chainedTypes fun _ _ => bindChainedType_comesFrom
  have second : List.Forall₂ (ComesFrom symbols (structRustName s))
      (s.chainedStructs.flatMap (chainLayout symbols s)) (structs.flatten.map (·.1)) :=
    mapM_comeFrom chainedStructs fun _ _ => bindChainedStruct_comesFrom
  have third := bindOwnFields_comeFrom fields
  unfold layout
  rw [List.map_eq_flatMap (f := Origin.chainedType), List.map_append, List.map_append,
    List.map_append]
  refine List.rel_append (List.rel_append (List.rel_append first second) third) ?_
  cases isCommand with
  | false => exact .nil
  | true => exact .cons rfl .nil

theorem bindStruct_parts {isCommand : Bool} {found : Option Struct}
    (bound : bindStruct symbols s isCommand = pure found) :
    ∃ fields, List.Forall₂ (ComesFrom symbols (structRustName s)) (layout symbols s isCommand)
        fields ∧
      found = some (structWith s fields none) := by
  obtain ⟨b, rfl, ran⟩ := Report.ifClean_exact.mp bound
  obtain ⟨placed, fields, ran⟩ := Report.bind_clean.mp ran
  obtain ⟨_, _, ran⟩ := Report.bind_clean.mp ran
  cases Report.pure_clean.mp ran
  exact ⟨_, bindFields_comeFrom fields, rfl⟩

theorem bindStruct_structOf {found : Option Struct}
    (bound : bindStruct symbols s false = pure found) :
    ∃ b, found = some b ∧ StructOf symbols s b := by
  obtain ⟨fields, each, rfl⟩ := bindStruct_parts bound
  exact ⟨_, rfl, fields, each, rfl⟩

theorem bindCommandField_elementOf {d : CommandDef} {element : Option Field}
    (bound : bindCommandField symbols d = pure element) : ElementOf symbols d element := by
  unfold bindCommandField at bound
  simp only at bound
  split at bound
  · exact absurd bound Report.reject_clean
  · rename_i type _ typed
    obtain ⟨found, kinds, bound⟩ := Report.bind_clean.mp bound
    obtain ⟨kind, array, rfl, kindOf⟩ := bindFieldKind_kindOf kinds
    cases Report.pure_clean.mp bound
    exact ⟨type, kind, array, typed, kindOf, rfl⟩
  · exact absurd bound Report.reject_clean
  · rename_i untyped _
    cases Report.pure_clean.mp bound
    exact untyped

theorem bindCommand_commandOf {d : CommandDef} {found : Option Struct}
    (bound : bindCommand symbols d = pure found) :
    ∃ b, found = some b ∧ CommandOf symbols d b := by
  obtain ⟨_, clean, bound⟩ := Report.bind_clean.mp bound
  obtain ⟨named, rfl, ran⟩ := Report.ifClean_exact.mp clean
  obtain ⟨base, struct, ran⟩ := Report.bind_clean.mp ran
  obtain ⟨element, elements, ran⟩ := Report.bind_clean.mp ran
  obtain ⟨_, _, ran⟩ := Report.bind_clean.mp ran
  obtain ⟨fields, each, rfl⟩ := bindStruct_parts struct
  cases Report.pure_clean.mp ran
  cases Report.pure_clean.mp bound
  exact ⟨_, rfl, fields, element, each, bindCommandField_elementOf elements, rfl⟩

end

theorem bindEnumValues_each {e : EnumDef} {names values : List String}
    {declared : List Schema.EnumValue} {bound : List EnumValue}
    (ran : bindEnumValues e names values declared = pure bound) :
    bound = declared.map fun v => ⟨v.name, Emit.enumeratorName v.name, v.value⟩ := by
  induction declared generalizing names values bound with
  | nil => exact (Report.pure_clean.mp ran).symm
  | cons v rest ih =>
    unfold bindEnumValues at ran
    obtain ⟨_, ran⟩ := Report.complain_unless.mp ran
    obtain ⟨_, ran⟩ := Report.complain_unless.mp ran
    obtain ⟨_, ran⟩ := Report.complain_unless.mp ran
    obtain ⟨more, others, ran⟩ := Report.bind_clean.mp ran
    cases Report.pure_clean.mp ran
    rw [ih others]
    rfl

theorem bindEnum_enumOf {e : EnumDef} {found : Option Enum} (bound : bindEnum e = pure found) :
    ∃ b, found = some b ∧ EnumOf e b := by
  unfold bindEnum at bound
  split at bound
  · exact absurd bound Report.reject_clean
  · obtain ⟨b, rfl, ran⟩ := Report.ifClean_exact.mp bound
    obtain ⟨values, each, ran⟩ := Report.bind_clean.mp ran
    obtain ⟨_, ran⟩ := Report.complain_unless.mp ran
    cases Report.pure_clean.mp ran
    rw [bindEnumValues_each each]
    exact ⟨_, rfl, rfl⟩

theorem bindParameter_parameterOf {p : ParameterDef} {found : Option Parameter}
    (bound : bindParameter p = pure found) : ∃ b, found = some b ∧ ParameterOf p b := by
  obtain ⟨_, clean, bound⟩ := Report.bind_clean.mp bound
  obtain ⟨inner, rfl, ran⟩ := Report.ifClean_exact.mp clean
  obtain ⟨set, ran⟩ := Report.complain_unless.mp ran
  obtain ⟨_, _, ran⟩ := Report.bind_clean.mp ran
  obtain ⟨_, ran⟩ := Report.complain_unless.mp ran
  obtain ⟨setAt, known⟩ := Option.ne_none_iff_exists'.mp (by simpa using set)
  rw [known] at ran
  cases Report.pure_clean.mp ran
  cases Report.pure_clean.mp bound
  exact ⟨_, rfl, setAt, known, rfl⟩

theorem bindOption_optionOf {defaults : Option OptionDefaults} {o : OptionDef}
    {found : Option OptionEntry} (bound : bindOption defaults o = pure found) :
    ∃ b, found = some b ∧ OptionOf defaults o b := by
  obtain ⟨_, clean, bound⟩ := Report.bind_clean.mp bound
  obtain ⟨inner, rfl, ran⟩ := Report.ifClean_exact.mp clean
  obtain ⟨typed, ran⟩ := Report.complain_unless.mp ran
  obtain ⟨_, _, ran⟩ := Report.bind_clean.mp ran
  obtain ⟨composed, ran⟩ := Report.complain_unless.mp ran
  obtain ⟨_, ran⟩ := Report.complain_unless.mp ran
  obtain ⟨_, ran⟩ := Report.complain_unless.mp ran
  obtain ⟨type, known⟩ := Option.ne_none_iff_exists'.mp (by simpa using typed)
  obtain ⟨composing, behaves⟩ := Option.ne_none_iff_exists'.mp (by simpa using composed)
  rw [known, behaves] at ran
  cases Report.pure_clean.mp ran
  cases Report.pure_clean.mp bound
  exact ⟨_, rfl, type, composing, known, behaves, rfl⟩

-- An item is given up only with a fault.
def Keeps {α β : Type} (bind : α → Report (Option β)) : Prop :=
  ∀ a found, bind a = pure found → found.isSome = true

theorem keeps_of_each {α β : Type} {bind : α → Report (Option β)} {of : α → β → Prop}
    (each : ∀ a found, bind a = pure found → ∃ b, found = some b ∧ of a b) : Keeps bind := by
  intro a found binds
  obtain ⟨b, rfl, _⟩ := each a found binds
  rfl

theorem bindEnum_keeps : Keeps bindEnum :=
  keeps_of_each fun _ _ => bindEnum_enumOf

theorem bindStruct_keeps {symbols : SymbolTable} : Keeps (bindStruct symbols · false) :=
  keeps_of_each fun _ _ => bindStruct_structOf

theorem bindCommand_keeps {symbols : SymbolTable} : Keeps (bindCommand symbols) :=
  keeps_of_each fun _ _ => bindCommand_commandOf

theorem bindParameter_keeps : Keeps bindParameter :=
  keeps_of_each fun _ _ => bindParameter_parameterOf

theorem bindOption_keeps {defaults : Option OptionDefaults} : Keeps (bindOption defaults) :=
  keeps_of_each fun _ _ => bindOption_optionOf

theorem bindEach_exact {α β : Type} {bind : α → Report (Option β)} {items : List α} {out : List β}
    (kept : Keeps bind) :
    bindEach bind items = pure out ↔
      List.Forall₂ (fun a b => bind a = pure (some b)) items out := by
  induction items generalizing out with
  | nil => simp [bindEach, eq_comm]
  | cons a rest ih =>
    constructor
    · intro bound
      obtain ⟨found, here, bound⟩ := Report.bind_clean.mp bound
      obtain ⟨more, others, bound⟩ := Report.bind_clean.mp bound
      cases Report.pure_clean.mp bound
      obtain ⟨b, rfl⟩ := Option.isSome_iff_exists.mp (kept a found here)
      exact .cons here (ih.mp others)
    · intro each
      cases each with
      | cons here others =>
        unfold bindEach
        rw [here, pure_bind, ih.mpr others]
        rfl

theorem bindNamed_exact {α β : Type} {kind : String} {nameOf : α → String}
    {locationOf : α → Location} {bind : α → Report (Option β)} {seen : List String}
    {items : List α} {out : List β} (kept : Keeps bind) :
    bindNamed kind nameOf locationOf bind seen items = pure out ↔
      (items.map nameOf).Nodup ∧ (∀ a ∈ items, nameOf a ∉ seen) ∧
        List.Forall₂ (fun a b => bind a = pure (some b)) items out := by
  induction items generalizing seen out with
  | nil => simp [bindNamed, eq_comm]
  | cons a rest ih =>
    have apart : (∀ b ∈ rest, nameOf b ∉ nameOf a :: seen) ↔
        nameOf a ∉ rest.map nameOf ∧ ∀ b ∈ rest, nameOf b ∉ seen := by
      simp only [List.mem_cons, not_or, List.mem_map, not_exists, not_and]
      exact forall₂_and
    rw [List.map_cons, List.nodup_cons, List.forall_mem_cons]
    unfold bindNamed
    by_cases taken : nameOf a ∈ seen
    · simp [taken, Report.bind_clean]
    · rw [if_neg (by simpa using taken)]
      constructor
      · intro bound
        obtain ⟨found, here, bound⟩ := Report.bind_clean.mp bound
        obtain ⟨more, others, bound⟩ := Report.bind_clean.mp bound
        cases Report.pure_clean.mp bound
        obtain ⟨b, rfl⟩ := Option.isSome_iff_exists.mp (kept a found here)
        obtain ⟨distinct, fresh, each⟩ := ih.mp others
        obtain ⟨alone, unseen⟩ := apart.mp fresh
        exact ⟨⟨alone, distinct⟩, ⟨taken, unseen⟩, .cons here each⟩
      · rintro ⟨⟨alone, distinct⟩, ⟨_, unseen⟩, each⟩
        cases each with
        | cons here others =>
          rw [here, pure_bind, ih.mpr ⟨distinct, apart.mpr ⟨alone, unseen⟩, others⟩]
          rfl

-- What is bound is all there is to bind: `of` says what an item becomes.
theorem forall₂_of_bound {α β : Type} {bind : α → Report (Option β)} {of : α → β → Prop}
    {items : List α} {out : List β}
    (bound : List.Forall₂ (fun a b => bind a = pure (some b)) items out)
    (each : ∀ a found, bind a = pure found → ∃ b, found = some b ∧ of a b) :
    List.Forall₂ of items out := by
  refine bound.imp fun a b binds => ?_
  obtain ⟨_, same, stands⟩ := each a _ binds
  cases same
  exact stands

theorem bind_complete {spec : Spec} {idl : Idl} (bound : bind spec = .ok idl) :
    List.Forall₂ EnumOf (spec.symbols.enums.filter (!·.imported)) idl.enums ∧
      List.Forall₂ ParameterOf spec.parameters idl.parameters ∧
      List.Forall₂ (OptionOf (spec.globals.bind (·.options))) spec.options idl.options ∧
      ∃ structs commands, idl.structs = structs ++ commands ∧
        List.Forall₂ (StructOf spec.symbols) (spec.symbols.structs.filter (!·.imported)) structs ∧
        List.Forall₂ (CommandOf spec.symbols) (spec.symbols.commands.filter (!·.base.imported))
          commands := by
  have ran := Report.toExcept_exact.mp bound
  obtain ⟨_, _, ran⟩ := Report.bind_clean.mp ran
  obtain ⟨enums, enumsBound, ran⟩ := Report.bind_clean.mp ran
  obtain ⟨structs, structsBound, ran⟩ := Report.bind_clean.mp ran
  obtain ⟨commands, commandsBound, ran⟩ := Report.bind_clean.mp ran
  obtain ⟨parameters, parametersBound, ran⟩ := Report.bind_clean.mp ran
  obtain ⟨options, optionsBound, ran⟩ := Report.bind_clean.mp ran
  cases Report.pure_clean.mp ran
  obtain ⟨_, _, eachParameter⟩ := (bindNamed_exact bindParameter_keeps).mp parametersBound
  obtain ⟨_, _, eachOption⟩ := (bindNamed_exact bindOption_keeps).mp optionsBound
  refine ⟨?_, ?_, ?_, structs, commands, rfl, ?_, ?_⟩
  · exact forall₂_of_bound ((bindEach_exact bindEnum_keeps).mp enumsBound)
      fun _ _ => bindEnum_enumOf
  · exact forall₂_of_bound eachParameter fun _ _ => bindParameter_parameterOf
  · exact forall₂_of_bound eachOption fun _ _ => bindOption_optionOf
  · exact forall₂_of_bound ((bindEach_exact bindStruct_keeps).mp structsBound)
      fun _ _ => bindStruct_structOf
  · exact forall₂_of_bound ((bindEach_exact bindCommand_keeps).mp commandsBound)
      fun _ _ => bindCommand_commandOf

section

-- A struct that chains a type and another struct, with a field of every sort of type.
def card : StructDef :=
  { location := lineOf "board.idl" 1, name := "card", strict := false
    chainedTypes := [{ location := lineOf "board.idl" 2, name := "extra", rustName := "extra" }]
    chainedStructs := [{ location := lineOf "board.idl" 3, name := "stamp", rustName := "stamp" }]
    fields := [
      fieldAt (lineOf "board.idl" 4) "title" "string",
      { location := lineOf "board.idl" 5, name := "marks", type := some (.array "color") },
      { location := lineOf "board.idl" 6, name := "size",
        type := some (.variant [.single "int", .single "stamp"]) },
      { location := lineOf "board.idl" 7, name := "old", ignore := true }] }

def board : Spec :=
  { symbols := {
      types := [{ location := lineOf "board.idl" 8, name := "extra", rustType := some "Extra"
                  wireTypes := ["chain"], serializer := some "write", deserializer := some "read" }]
      enums := [
        { location := lineOf "board.idl" 9, name := "color", type := "string"
          values := [⟨lineOf "board.idl" 10, "red", "r"⟩, ⟨lineOf "board.idl" 11, "blue", "b"⟩] },
        { location := lineOf "board.idl" 12, name := "shade", imported := true }]
      structs := [
        { location := lineOf "board.idl" 13, name := "stamp"
          fields := [
            fieldAt (lineOf "board.idl" 14) "at" "date",
            fieldAt (lineOf "board.idl" 15) "by" "string"] },
        card]
      commands := [
        { base := { location := lineOf "board.idl" 16, name := "pin"
                    fields := [fieldAt (lineOf "board.idl" 17) "card" "card"] }
          commandName := "pin" }] }
    parameters := [{ location := lineOf "board.idl" 18, name := "limit", setAt := ["startup"]
                     rustVariable := some "LIMIT" }]
    options := [{ location := lineOf "board.idl" 19, name := "port", argType := some "Int"
                  description := some "Port" }] }

theorem bind_complete_board :
    ∃ idl, bind board = .ok idl ∧ idl.enums.map (·.name) = ["color"] ∧
      idl.structs.map (fun s => (s.name, s.fields.map (·.name))) =
        [("stamp", ["at", "by"]),
          ("card", ["extra", "stamp", "at", "by", "title", "marks", "size", "old"]),
          ("pin", ["card", "$db"])] ∧
      List.Forall₂ ParameterOf board.parameters idl.parameters ∧
      List.Forall₂ (OptionOf none) board.options idl.options := by
  have bound : bind board = .ok (bindAll board).value :=
    Report.toExcept_of_clean (by decide +kernel)
  obtain ⟨_, parameters, options, _⟩ := bind_complete bound
  exact ⟨_, bound, by decide +kernel, by decide +kernel, parameters, options⟩

end

end WireSchema.Bound
