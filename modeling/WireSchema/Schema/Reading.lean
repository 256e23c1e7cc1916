import WireSchema.Number.Integer
import WireSchema.Schema.SymbolTable
import WireSchema.Text.Casing

namespace WireSchema.Schema

open Source (Node Scalar Content)

-- An entry that may stand only once is refused the second time, an entry with an unknown key is
-- reported, and a definition that lacks something it needs is dropped after its faults are
-- recorded.

def nodeLocation (file : String) (node : Node) : Location :=
  ⟨file, node.position⟩

namespace Entry

def scalar (file : String) (node : Node) : Report (Option String) :=
  match node.content with
  | .scalar (.arrayOf _) | .list _ | .block _ | .flag =>
    Report.reject (nodeLocation file node) (.notScalar node.content.kindName node.key)
  | .scalar s => return some s.text

def flag (file : String) (node : Node) : Report (Option Bool) :=
  match node.content with
  | .flag => return some true
  | .scalar (.name "true") => return some true
  | .scalar (.name "false") => return some false
  | .scalar s => Report.reject (nodeLocation file node) (.badBool node.key s.text)
  | _ => Report.reject (nodeLocation file node) (.notScalar node.content.kindName node.key)

def int (file : String) (node : Node) : Report (Option Int) := do
  match ← scalar file node with
  | none => return none
  | some text =>
    match Integer.int32? text with
    | some n => return some n.toInt
    | none => Report.reject (nodeLocation file node) (.badInt node.key text)

def sequence (file : String) (node : Node) : Report (Option (List String)) :=
  match node.content with
  | .list items => return some (items.map Scalar.text)
  | .scalar (.arrayOf _) | .block _ | .flag =>
    Report.reject (nodeLocation file node) (.notSequence node.content.kindName node.key)
  | .scalar s => return some [s.text]

def block (file : String) (node : Node) : Report (Option (List Node)) :=
  match node.content with
  | .block children => return some children
  | _ => Report.reject (nodeLocation file node) (.notBlock node.content.kindName node.key)

def name (file : String) (node : Node) : Report (Option String) :=
  match node.name with
  | some name => return some name
  | none => Report.reject (nodeLocation file node) (.missingName node.key)

def missing {α : Type} (file : String) (node : Node) (parent entry : String) :
    Report (Option α) :=
  Report.reject (nodeLocation file node) (.missingEntry parent entry)

-- `step` says what an entry does, or `none` when it does not know the key.
def fold {σ : Type} (file parent : String) (repeatable : String → Bool)
    (step : σ → Node → Report (Option σ)) : List String → σ → List Node → Report σ
  | _, s, [] => return s
  | seen, s, node :: rest => do
    if !repeatable node.key && seen.contains node.key then
      Report.complain (nodeLocation file node) (.duplicateNode node.key parent)
      fold file parent repeatable step seen s rest
    else
      -- An unknown key is recorded too, so its repetition is reported as one.
      let seen := if repeatable node.key then seen else node.key :: seen
      match ← step s node with
      | some s => fold file parent repeatable step seen s rest
      | none =>
        Report.complain (nodeLocation file node) (.unknownNode node.key parent)
        fold file parent repeatable step seen s rest

def foldOnce {σ : Type} (file parent : String) (step : σ → Node → Report (Option σ)) (s : σ)
    (children : List Node) : Report σ :=
  fold file parent (fun _ => false) step [] s children

end Entry

def readExpression (file : String) (node : Node) : Report (Option Expression) :=
  match node.content with
  | .scalar (.quoted s) => return some { literal := some s }
  | .scalar (.number s) | .scalar (.name s) => return some { code := some s }
  | .block children => do
    let e ← Entry.foldOnce file node.key (fun (e : Expression) child => do
      match child.key with
      | "expr" => return some { e with code := ← Entry.scalar file child }
      | "literal" => return some { e with literal := ← Entry.scalar file child }
      | "is_constexpr" => return some { e with isConstant := (← Entry.flag file child).getD true }
      | _ => return none) {} children
    if e.code.isNone && e.literal.isNone then Entry.missing file node node.key "expr"
    else return some e
  | _ => Report.reject (nodeLocation file node) (.notScalar node.content.kindName node.key)

def readTypeRef (file : String) (node : Node) : Report (Option TypeRef) :=
  match node.content with
  | .scalar (.arrayOf element) => return some (.array element)
  | .scalar (.name name) | .scalar (.quoted name) => return some (.single name)
  | .list items =>
    return some (.variant (items.map fun item =>
      match item with
      | .arrayOf element => .array element
      | other => .single other.text))
  | _ => Report.reject (nodeLocation file node) (.notScalar node.content.kindName node.key)

def readValidator (file : String) (node : Node) : Report (Option Validator) := do
  let some children ← Entry.block file node | return none
  let v ← Entry.foldOnce file "validator" (fun (v : Validator) child => do
    match child.key with
    | "gt" => return some { v with gt := ← Entry.scalar file child }
    | "lt" => return some { v with lt := ← Entry.scalar file child }
    | "gte" => return some { v with gte := ← Entry.scalar file child }
    | "lte" => return some { v with lte := ← Entry.scalar file child }
    | "callback" => return some { v with callback := ← Entry.scalar file child }
    | _ => return none) { location := nodeLocation file node } children
  return some v

def readCondition (file : String) (node : Node) : Report (Option Condition) := do
  let some children ← Entry.block file node | return none
  let c ← Entry.foldOnce file "condition" (fun (c : Condition) child => do
    match child.key with
    | "expr" => return some { c with code := ← Entry.scalar file child }
    | "constexpr" => return some { c with constant := ← Entry.scalar file child }
    | "preprocessor" => return some { c with preprocessor := ← Entry.scalar file child }
    | _ => return none) {} children
  return some c

def readOptionDefaults (file : String) (node : Node) : Report (Option OptionDefaults) := do
  let some children ← Entry.block file node | return none
  let d ← Entry.foldOnce file "configs" (fun (d : OptionDefaults) child => do
    match child.key with
    | "section" => return some { d with sectionName := ← Entry.scalar file child }
    | "source" => return some { d with source := (← Entry.sequence file child).getD [] }
    | "initializer_name" => return some { d with initializer := ← Entry.scalar file child }
    | _ => return none) { location := nodeLocation file node } children
  return some d

def readGlobals (file : String) (node : Node) : Report (Option Globals) := do
  let some children ← Entry.block file node | return none
  let g ← Entry.foldOnce file "global" (fun (g : Globals) child => do
    match child.key with
    | "rust_module" => return some { g with rustModule := ← Entry.scalar file child }
    | "uses" => return some { g with uses := (← Entry.sequence file child).getD [] }
    | "configs" => return some { g with options := ← readOptionDefaults file child }
    | _ => return none) { location := nodeLocation file node } children
  return some g

def readType (file : String) (node : Node) : Report (Option TypeDef) := do
  let some name ← Entry.name file node | return none
  let some children ← Entry.block file node | return none
  let t ← Entry.foldOnce file "type" (fun (t : TypeDef) child => do
    match child.key with
    | "description" => return some { t with description := ← Entry.scalar file child }
    | "rust_type" => return some { t with rustType := ← Entry.scalar file child }
    | "bson_serialization_type" =>
      return some { t with wireTypes := (← Entry.sequence file child).getD [] }
    | "bindata_subtype" => return some { t with subtype := ← Entry.scalar file child }
    | "serializer" => return some { t with serializer := ← Entry.scalar file child }
    | "deserializer" => return some { t with deserializer := ← Entry.scalar file child }
    | "default" => return some { t with default := ← readExpression file child }
    | _ => return none) { location := nodeLocation file node, name } children
  if t.rustType.isNone then Entry.missing file node "type" "rust_type"
  else if t.wireTypes.isEmpty then Entry.missing file node "type" "bson_serialization_type"
  else return some t

def readEnumValue (file : String) (node : Node) : Report (List EnumValue) := do
  let some name ← Entry.name file node | return []
  let some value ← Entry.scalar file node | return []
  return [{ location := nodeLocation file node, name, value }]

def readEnum (file : String) (node : Node) : Report (Option EnumDef) := do
  let some name ← Entry.name file node | return none
  let some children ← Entry.block file node | return none
  let e ← Entry.fold file "enum" (· == "value") (fun (e : EnumDef) child => do
    match child.key with
    | "description" => return some { e with description := ← Entry.scalar file child }
    | "rust_name" => return some { e with rustName := ← Entry.scalar file child }
    | "type" => return some { e with type := (← Entry.scalar file child).getD "" }
    | "value" => return some { e with values := e.values ++ (← readEnumValue file child) }
    | _ => return none) [] { location := nodeLocation file node, name } children
  if e.type.isEmpty then Entry.missing file node "enum" "type"
  else if e.values.isEmpty then Entry.missing file node "enum" "value"
  else return some e

-- A single name listed as a variant is a variant with one alternative.
def asVariant : TypeRef → TypeRef
  | .single name => .variant [.single name]
  | other => other

def readFieldEntry (file : String) (f : FieldDef) (child : Node) : Report (Option FieldDef) := do
  match child.key with
  | "type" | "variant" =>
    -- One entry under two keys. A type that was refused leaves room for another.
    if f.type.isSome then
      Report.complain (nodeLocation file child) (.duplicateNode child.key "field")
      return some f
    else
      let type ← readTypeRef file child
      return some { f with type := if child.key == "variant" then type.map asVariant else type }
  | "description" => return some { f with description := ← Entry.scalar file child }
  | "rust_name" => return some { f with rustName := ← Entry.scalar file child }
  | "optional" => return some { f with optional := (← Entry.flag file child).getD false }
  | "ignore" => return some { f with ignore := (← Entry.flag file child).getD false }
  | "unstable" => return some { f with unstable := (← Entry.flag file child).getD false }
  | "supports_doc_sequence" =>
    return some { f with docSequence := (← Entry.flag file child).getD false }
  | "comparison_order" =>
    return some { f with comparisonOrder := (← Entry.int file child).getD (-1) }
  | "default" => return some { f with default := ← readExpression file child }
  | "validator" => return some { f with validator := ← readValidator file child }
  | _ => return none

def readField (file : String) (node : Node) : Report (Option FieldDef) := do
  let some name ← Entry.name file node | return none
  let empty : FieldDef := { location := nodeLocation file node, name }
  let f ←
    match node.content with
    | .block children => Entry.foldOnce file "field" (readFieldEntry file) empty children
    | .flag => pure empty
    | _ => do
      let type ← readTypeRef file node
      pure { empty with type }
  if f.type.isNone && !f.ignore then Entry.missing file node "field" "type"
  else return some f

def readChained (file : String) (node : Node) : Report (List Chained) := do
  let some name ← Entry.name file node | return []
  let location := nodeLocation file node
  match node.content with
  | .flag => return [{ location, name, rustName := Casing.snake name }]
  | _ =>
    let some rustName ← Entry.scalar file node | return []
    return [{ location, name, rustName }]

def readStructEntry (file : String) (s : StructDef) (child : Node) :
    Report (Option StructDef) := do
  match child.key with
  | "description" => return some { s with description := ← Entry.scalar file child }
  | "rust_name" => return some { s with rustName := ← Entry.scalar file child }
  | "strict" => return some { s with strict := (← Entry.flag file child).getD true }
  | "immutable" => return some { s with immutable := (← Entry.flag file child).getD false }
  | "inline_chained_structs" =>
    return some { s with inlineChained := (← Entry.flag file child).getD true }
  | "generate_comparison_operators" =>
    return some { s with comparable := (← Entry.flag file child).getD false }
  | "chained_type" =>
    return some { s with chainedTypes := s.chainedTypes ++ (← readChained file child) }
  | "chained_struct" =>
    return some { s with chainedStructs := s.chainedStructs ++ (← readChained file child) }
  | "field" => return some { s with fields := s.fields ++ (← readField file child).toList }
  | _ => return none

def isRepeatedStructKey (key : String) : Bool :=
  key == "field" || key == "chained_type" || key == "chained_struct"

def readStruct (file : String) (node : Node) : Report (Option StructDef) := do
  let some name ← Entry.name file node | return none
  let some children ← Entry.block file node | return none
  let s ← Entry.fold file "struct" isRepeatedStructKey (readStructEntry file) []
    { location := nodeLocation file node, name } children
  return some s

structure CommandDraft where
  command : CommandDef
  namespaceSeen : Bool := false

def readCommandEntry (file : String) (d : CommandDraft) (child : Node) :
    Report (Option CommandDraft) := do
  let c := d.command
  match child.key with
  | "command_name" =>
    let text ← Entry.scalar file child
    return some { d with command := { c with commandName := text.getD c.commandName } }
  | "namespace" =>
    match ← Entry.scalar file child with
    | none => return some { d with namespaceSeen := true }
    | some text =>
      match NamespaceRule.ofName? text with
      | some rule =>
        return some { command := { c with namespaceRule := rule }, namespaceSeen := true }
      | none =>
        Report.complain (nodeLocation file child) (.badNamespace text)
        return some { d with namespaceSeen := true }
  | "type" => return some { d with command := { c with commandType := ← readTypeRef file child } }
  | "api_version" =>
    return some { d with command := { c with apiVersion := (← Entry.scalar file child).getD "" } }
  | "reply_type" =>
    return some { d with command := { c with replyType := ← Entry.scalar file child } }
  | _ =>
    match ← readStructEntry file c.base child with
    | some base => return some { d with command := { c with base } }
    | none => return none

def readCommand (file : String) (node : Node) : Report (Option CommandDef) := do
  let some name ← Entry.name file node | return none
  let some children ← Entry.block file node | return none
  let base : StructDef := { location := nodeLocation file node, name }
  let d ← Entry.fold file "command" isRepeatedStructKey (readCommandEntry file) []
    { command := { base, commandName := name } } children
  if d.namespaceSeen then return some d.command
  else Entry.missing file node "command" "namespace"

def readParameterEntry (file : String) (p : ParameterDef) (child : Node) :
    Report (Option ParameterDef) := do
  match child.key with
  | "description" => return some { p with description := ← Entry.scalar file child }
  | "set_at" => return some { p with setAt := (← Entry.sequence file child).getD [] }
  | "rust_vartype" => return some { p with rustType := ← Entry.scalar file child }
  | "rust_varname" => return some { p with rustVariable := ← Entry.scalar file child }
  | "condition" => return some { p with condition := ← readCondition file child }
  | "deprecated_name" =>
    return some { p with deprecatedNames := (← Entry.sequence file child).getD [] }
  | "redact" => return some { p with redact := (← Entry.flag file child).getD false }
  | "test_only" => return some { p with testOnly := (← Entry.flag file child).getD false }
  | "default" => return some { p with default := ← readExpression file child }
  | "validator" => return some { p with validator := ← readValidator file child }
  | "on_update" => return some { p with onUpdate := ← Entry.scalar file child }
  | "from_string" => return some { p with fromString := ← Entry.scalar file child }
  | "append_bson" => return some { p with appendBson := ← Entry.scalar file child }
  | _ => return none

def readParameter (file : String) (node : Node) : Report (Option ParameterDef) := do
  let some name ← Entry.name file node | return none
  let some children ← Entry.block file node | return none
  let p ← Entry.foldOnce file "server_parameter" (readParameterEntry file)
    { location := nodeLocation file node, name } children
  if p.setAt.isEmpty then Entry.missing file node "server_parameter" "set_at"
  else return some p

def readOptionEntry (file : String) (o : OptionDef) (child : Node) :
    Report (Option OptionDef) := do
  match child.key with
  | "short_name" => return some { o with shortName := ← Entry.scalar file child }
  | "single_name" => return some { o with singleName := ← Entry.scalar file child }
  | "deprecated_name" =>
    return some { o with deprecatedNames := (← Entry.sequence file child).getD [] }
  | "deprecated_short_name" =>
    return some { o with deprecatedShortNames := (← Entry.sequence file child).getD [] }
  | "description" => return some { o with description := ← Entry.scalar file child }
  | "section" => return some { o with sectionName := ← Entry.scalar file child }
  | "arg_vartype" => return some { o with argType := ← Entry.scalar file child }
  | "rust_vartype" => return some { o with rustType := ← Entry.scalar file child }
  | "rust_varname" => return some { o with rustVariable := ← Entry.scalar file child }
  | "condition" => return some { o with condition := ← readCondition file child }
  | "conflicts" => return some { o with conflicts := (← Entry.sequence file child).getD [] }
  | "requires" => return some { o with requires := (← Entry.sequence file child).getD [] }
  | "hidden" => return some { o with hidden := (← Entry.flag file child).getD false }
  | "redact" => return some { o with redact := (← Entry.flag file child).getD false }
  | "default" => return some { o with default := ← readExpression file child }
  | "implicit" => return some { o with implicit := ← readExpression file child }
  | "source" => return some { o with source := (← Entry.sequence file child).getD [] }
  | "duplicate_behavior" => return some { o with duplicates := ← Entry.scalar file child }
  | "positional" => return some { o with positional := ← Entry.scalar file child }
  | "validator" => return some { o with validator := ← readValidator file child }
  | _ => return none

def readOption (file : String) (node : Node) : Report (Option OptionDef) := do
  let some name ← Entry.name file node | return none
  let some children ← Entry.block file node | return none
  let o ← Entry.foldOnce file "config_option" (readOptionEntry file)
    { location := nodeLocation file node, name } children
  if o.description.isNone then Entry.missing file node "config_option" "description"
  else if o.argType.isNone then Entry.missing file node "config_option" "arg_vartype"
  else return some o

def readTopLevel (file : String) (spec : Spec) (node : Node) : Report Spec := do
  match node.key with
  | "global" =>
    -- A block that was refused does not count as the first one.
    if spec.globals.isSome then
      Report.complain (nodeLocation file node) (.duplicateNode node.key "root")
      return spec
    else return { spec with globals := ← readGlobals file node }
  | "imports" =>
    if spec.imports.isSome then
      Report.complain (nodeLocation file node) (.duplicateNode node.key "root")
      return spec
    else
      match ← Entry.sequence file node with
      | some files =>
        return { spec with imports := some { location := nodeLocation file node, files } }
      | none => return spec
  | "type" =>
    let some t ← readType file node | return spec
    return { spec with symbols := ← spec.symbols.addType t }
  | "enum" =>
    let some e ← readEnum file node | return spec
    return { spec with symbols := ← spec.symbols.addEnum e }
  | "struct" =>
    let some s ← readStruct file node | return spec
    return { spec with symbols := ← spec.symbols.addStruct s }
  | "command" =>
    let some c ← readCommand file node | return spec
    return { spec with symbols := ← spec.symbols.addCommand c }
  | "server_parameter" =>
    return { spec with parameters := spec.parameters ++ (← readParameter file node).toList }
  | "config_option" =>
    return { spec with options := spec.options ++ (← readOption file node).toList }
  | _ =>
    Report.complain (nodeLocation file node) (.unknownNode node.key "root")
    return spec

def readSpec (file : String) (nodes : List Node) : Report Spec :=
  nodes.foldlM (readTopLevel file) {}

def parseText (text file : String) : Report Spec :=
  match Source.tokenize text >>= Source.parseNodes with
  | .ok nodes => readSpec file nodes
  | .error e => ⟨{}, [⟨.unreadable e.fault, ⟨file, e.position⟩⟩]⟩

end WireSchema.Schema
