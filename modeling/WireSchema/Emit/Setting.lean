import WireSchema.Emit.Name
import WireSchema.Emit.SettingName
import WireSchema.Emit.Writer
import WireSchema.Bound.Model

namespace WireSchema.Emit

open WireSchema.Bound (Idl OptionEntry Parameter Validator)

def conditionTest? (c : Option Schema.Condition) : Option String :=
  c.bind fun c =>
    match c.preprocessor with
    | some p => some s!"if cfg!({p})"
    | none => (c.constant.or c.code).map fun e => s!"if {e}"

def underCondition (c : Option Schema.Condition) (body : List Code) : List Code :=
  match conditionTest? c with
  | some test => [.braces test body]
  | none => body

def storageItem (name type : String) : Code :=
  .line s!"pub static {name}: ParameterStorage<{type}> = ParameterStorage::new();"

def boundConstant (op : String) : String :=
  match op with
  | ">" => "BoundOp::Gt"
  | ">=" => "BoundOp::Gte"
  | "<" => "BoundOp::Lt"
  | _ => "BoundOp::Lte"

def restrictions (type : String) (v : Validator) : List String :=
  (v.bounds.map fun (op, limit) =>
    let constant := boundConstant op
    let limit := numberLiteral type limit
    s!"param.add_bound({constant}, {limit});") ++
  v.callback.toList.map fun c => s!"param.add_validator({c});"

def parameterMarks (p : Parameter) : List String :=
  (if p.redact then ["param.set_redact();"] else []) ++
  (if p.testOnly then ["param.set_test_only();"] else [])

def parameterCalls (p : Parameter) : List String × List String :=
  match p.rustVariable with
  | some _ =>
    let type := p.rustType.getD ""
    let calls := p.validator.toList.flatMap (restrictions type) ++
      p.onUpdate.toList.map (fun f => s!"param.set_on_update({f});") ++ parameterMarks p
    match p.default with
    | none => (calls, [])
    | some d =>
      match d.code, d.literal with
      | some e, _ =>
        let value := numberLiteral type e
        (calls ++ [s!"param.set_default({value})?;"], [])
      | none, some l =>
        let value := textLiteral l
        (calls, [s!"ServerParameter::set_from_string(&param, {value})?;"])
      | none, none => (calls, [])
  | none =>
    (p.fromString.toList.map (fun f => s!"param.set_from_string_hook({f});") ++
      p.appendBson.toList.map (fun f => s!"param.set_append_bson_hook({f});") ++ parameterMarks p,
     [])

inductive RegistryCall where
  | add (name : String)
  | addAlias (old name : String)
deriving DecidableEq, Repr

-- A parameter is added before its old names, which refer to it.
def registryCalls (p : Parameter) : List RegistryCall :=
  .add p.name :: p.deprecatedNames.map (.addAlias · p.name)

def RegistryCall.code : RegistryCall → Code
  | add _ => .line "registry.add(Box::new(param))?;"
  | addAlias old name =>
    let old := textLiteral old
    let name := textLiteral name
    .line s!"registry.add_alias({old}, {name})?;"

def parameterRegistration (p : Parameter) : Code :=
  let name := textLiteral p.name
  let (calls, values) := parameterCalls p
  let binding := if calls.isEmpty then "let param" else "let mut param"
  let setAt := setAtConstant p.setAt
  let construction :=
    match p.rustVariable with
    | some place =>
      s!"{binding} = ServerParameterWithStorage::new({name}, {setAt}, &{place});"
    | none => s!"{binding} = IdlServerParameter::new({name}, {setAt});"
  let body := [.line construction] ++ (calls ++ values).map Code.line ++
    (registryCalls p).map RegistryCall.code
  match conditionTest? p.condition with
  | some test => .braces test body
  | none => .block "\x7b" "\x7d" body

def parameterCode (parameters : List Parameter) (inputName : String) : List Code :=
  if parameters.isEmpty then []
  else
    let storage := parameters.flatMap fun p =>
      match p.rustVariable, p.rustType with
      | some place, some type => documentation p.description ++ [storageItem place type]
      | _, _ => []
    storage ++
    [.gap,
     .line s!"/// Registers the server parameters declared in {inputName}.",
     .braces
      "pub fn register_server_parameters(registry: &mut ServerParameterRegistry) -> Result<(), IdlError>"
      (parameters.map parameterRegistration ++ [.line "Ok(())"]),
     .gap]

def sourceConstants? (sources : List String) : Option String :=
  let known := [("cli", "OptionSources::COMMAND_LINE"), ("ini", "OptionSources::INI"),
    ("yaml", "OptionSources::YAML")]
  match (known.filter fun (source, _) => sources.contains source).map (·.2) with
  | [] => none
  | [_, _, _] => none
  | first :: rest => some (rest.foldl (fun text constant => s!"{text}.union({constant})") first)

def isDoubleOption (o : OptionEntry) : Bool :=
  optionConstructor? o.type == some "Bson::Double"

def optionLiteralType (o : OptionEntry) : String :=
  if isDoubleOption o then "f64" else ""

def optionValue (o : OptionEntry) (e : Schema.Expression) : String :=
  let text := e.text
  match optionConstructor? o.type with
  | some constructor =>
    let value := numberLiteral (optionLiteralType o) text
    s!"{constructor}({value})"
  | none => if e.literal.isSome then textLiteral text else text

def optionConstraint (o : OptionEntry) (v : Validator) : String :=
  let accessor := optionAccessor o.type
  let name := textLiteral o.name
  let bounds := v.bounds.flatMap fun (op, limit) =>
    let limit := numberLiteral (optionLiteralType o) limit
    let operator := textLiteral op
    [s!"    if !(value {op} ({limit})) \x7b",
     s!"        return Err(comparison_error(None, {name}, {operator}, &value, &({limit})));",
     "    \x7d"]
  let last :=
    match v.callback with
    | some c => s!"    {c}(&value)"
    | none => "    Ok(())"
  "\n".intercalate <|
    ["add_constraint(|value: &Bson| \x7b", s!"    let value = value.{accessor};"] ++ bounds ++
    [last, "\x7d)"]

def optionCalls (o : OptionEntry) : List String :=
  let name := textLiteral o.name
  let single := textLiteral o.singleName
  let type := optionTypeConstant o.type
  let description := textLiteral o.description
  let named (call : String) (names : List String) : List String :=
    names.map fun n =>
      let literal := textLiteral n
      s!"{call}({literal})"
  [s!"add_option_chaining({name}, {single}, {type}, {description})"] ++
  ((sourceConstants? o.sources).toList.map fun c => s!"set_sources({c})") ++
  (if o.hidden then ["hidden()"] else []) ++
  (if o.redact then ["redact()"] else []) ++
  (o.default.toList.map fun e =>
    let value := optionValue o e
    s!"set_default({value})") ++
  (o.implicit.toList.map fun e =>
    let value := optionValue o e
    s!"set_implicit({value})") ++
  (if o.composing then ["composing()"] else []) ++
  (o.positional.toList.map fun (first, last) => s!"positional({first}, {last})") ++
  named "requires" o.requires ++
  named "incompatible_with" o.conflicts ++
  named "add_deprecated_dotted_name" o.deprecatedNames ++
  named "add_deprecated_single_name" o.deprecatedShortNames ++
  o.validator.toList.map (optionConstraint o)

def optionRegistration (target : String) (o : OptionEntry) : List Code :=
  let chain := (optionCalls o).map fun call =>
    "\n    ." ++ call.replace "\n" "\n    "
  underCondition o.condition [.line (target ++ String.join chain ++ ";")]

def optionSections (options : List OptionEntry) : List String :=
  (options.filterMap (·.sectionName)).foldl
    (fun names name => if names.contains name then names else names ++ [name]) []

def sectionRegistration (options : List OptionEntry) (name : String) : Code :=
  let literal := textLiteral name
  .block "\x7b" "\x7d"
    ([.line s!"let mut section = OptionSection::new({literal});"] ++
     (options.filter (·.sectionName == some name)).flatMap (optionRegistration "section") ++
     [.line "options.add_section(section)?;"])

def optionStore (o : OptionEntry) : List Code :=
  match o.rustVariable with
  | none => []
  | some place =>
    let name := textLiteral o.name
    let accessor := optionAccessor o.type
    underCondition o.condition
      [.braces s!"if let Some(value) = params.get({name})"
        [.line s!"{place}.set(value.{accessor});"]]

def optionCode (idl : Idl) (inputName : String) : List Code :=
  let options := idl.options
  if options.isEmpty then []
  else
    let initializer := memberName (idl.globals.initializer.getD "startup_options")
    let storage := options.flatMap fun o =>
      match o.rustVariable, o.rustType with
      | some place, some type => [storageItem place type]
      | _, _ => []
    let stores := options.flatMap optionStore
    let parameter := if options.any (·.rustVariable.isSome) then "params" else "_params"
    storage ++
    [.gap,
     .line s!"/// Registers the startup options declared in {inputName}.",
     .braces s!"pub fn register_{initializer}(options: &mut OptionSection) -> Result<(), IdlError>"
      ((options.filter (·.sectionName.isNone)).flatMap (optionRegistration "options") ++ [.gap] ++
        (optionSections options).map (sectionRegistration options) ++ [.line "Ok(())"]),
     .gap,
     .line "/// Copies parsed option values into their storage.",
     .braces s!"pub fn store_{initializer}({parameter}: &Environment) -> Result<(), IdlError>"
      (stores ++ [.line "Ok(())"]),
     .gap]

end WireSchema.Emit
