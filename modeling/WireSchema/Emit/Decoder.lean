import WireSchema.Emit.Declaration

namespace WireSchema.Emit

open WireSchema.Bound (Field Struct Validator)

-- How a field is filled is a list of steps, and only the last stage turns them into text. So what
-- guards an assignment can be read off the steps.

inductive Step where
  | code (lines : List Code)
  | decode (name expression : String)
  | validate (field : Field) (context value : String)
  | collect (expression : String)
  | each (head : String) (body : List Step)
  | assign (field : Field) (value : String)

def assignment (f : Field) (value : String) : List Code :=
  let value := if f.optional then s!"Some({value})" else value
  match f.owner with
  | some member =>
    -- The setter fails only where it validates.
    let fallible := if f.validator.isSome then "?" else ""
    [.line s!"self.{member}.set_{f.rustName}({value}){fallible};"]
  | none =>
    [.line s!"self.{f.rustName} = {value};"] ++
    (if f.hasFlag then [.line s!"self.has_{f.rustName} = true;"] else [])

mutual

def Step.render : Step → List Code
  | .code lines => lines
  | .decode name expression => [.line s!"let {name} = {expression};"]
  | .validate f context value => [.line s!"Self::validate_{f.rustName}(Some({context}), &{value})?;"]
  | .collect expression => [.line s!"values.push({expression});"]
  | .each head body => [.braces head (Step.renderAll body)]
  | .assign f value => assignment f value

def Step.renderAll : List Step → List Code
  | [] => []
  | s :: rest => s.render ++ Step.renderAll rest

end

-- The setter of an inlined field validates, so only a field of the struct itself is validated where
-- it is decoded.
def validation (f : Field) (context value : String) : List Step :=
  if f.validator.isSome && f.owner.isNone then [.validate f context value] else []

def arrayKeyCheck : List Code :=
  [.braces "match parse_array_field_number(array_field_name)"
    [.line "Some(field_number) if field_number == expected_field_number => \x7b\x7d",
     .braces "Some(field_number) =>"
      [.line "return Err(array_ctxt.bad_array_field_number_sequence(field_number, expected_field_number));"],
     .line "None => return Err(array_ctxt.bad_array_field_number_value(array_field_name)),"],
   .gap]

def itemSource : ElementSource where
  context := "array_ctxt"
  contextRef := "&array_ctxt"
  fieldName := "array_field_name"
  element := "array_element"
  childName := "array_field_name"

def fieldSteps (f : Field) (s : ElementSource) : Except EmitError (List Step × String) := do
  if !f.array then
    let (checks, expression) ← elementValue f.kind s
    return ([.code checks, .decode "value" expression] ++ validation f s.contextRef "value", "value")
  else
    let (checks, expression) ← elementValue f.kind itemSource
    let before : List Code :=
      [(ElementCheck.kind .array).code s,
       .line s!"let array_ctxt = ParserContext::with_parent({s.childName}, {s.contextRef});",
       .line "let mut values = Vec::new();",
       .line "let mut expected_field_number: u32 = 0;"]
    let body : List Step :=
      [.code (arrayKeyCheck ++ checks), .decode "value" expression] ++
      validation f s.contextRef "value" ++
      [.collect "value", .code [.line "expected_field_number += 1;"]]
    return ([.code before,
      .each s!"for (array_field_name, array_element) in {s.element}.as_array().iter()" body],
      "values")

structure Arm where
  field : Field
  steps : List Step

def elementArm (t : Tracking) (f : Field) : Except EmitError Arm := do
  let met := Step.code (t.meetField f "field_name")
  if f.ignore then return { field := f, steps := [met] }
  else
    let source : ElementSource := {
      context := "ctxt", contextRef := "ctxt", fieldName := "field_name", element := "element"
      childName := wireNameConstant f }
    let (steps, value) ← fieldSteps f source
    return { field := f, steps := [met] ++ steps ++ [.assign f value] }

def sequenceValue (f : Field) : Except EmitError String :=
  match f.kind with
  | .struct target =>
    let name := wireNameConstant f
    .ok s!"{target.rustName}::parse(&ParserContext::with_parent({name}, ctxt), sequence_object)?"
  | .basic t =>
    if t.isDocument then .ok "sequence_object.clone()" else .error (.noSequence f.name)
  | _ => .error (.noSequence f.name)

def sequenceArm (t : Tracking) (f : Field) : Except EmitError Arm := do
  let name := wireNameConstant f
  let value ← sequenceValue f
  let met := t.meetName name ++ t.meetField f name
  return {
    field := f
    steps := [
      .code (met ++ [.line "let mut values = Vec::new();"]),
      .each "for sequence_object in &sequence.objs" [.collect value],
      .assign f "values"] }

def branches (subject : String) (arms : List Arm) (otherwise : List Code) : List Code :=
  arms.zipIdx.flatMap (fun (arm, i) =>
    let name := wireNameConstant arm.field
    let test := s!"if {subject} == {name} \x7b"
    [.line (if i == 0 then test else "\x7d else " ++ test),
     .indented (Step.renderAll arm.steps)]) ++ otherwise

def unknownField (name : String) : Code :=
  .line s!"return Err(ctxt.unknown_field({name}));"

-- A command leaves generic arguments alone.
def otherNames (k : Flavour) (s : Struct) (noArms : Bool) : List Code :=
  let unknown := unknownField "field_name"
  match s.strict, noArms with
  | true, true =>
    if k.isCommand then [.braces "if !is_generic_argument(field_name)" [unknown]] else [unknown]
  | true, false =>
    let test := if k.isCommand then "else if !is_generic_argument(field_name) \x7b" else "else \x7b"
    [.line ("\x7d " ++ test), .indented [unknown], .line "\x7d"]
  | false, true => []
  | false, false => [.line "\x7d"]

def elementLoop (k : Flavour) (s : Struct) (elements : String) : Except EmitError (List Code) := do
  let t := Tracking.of s
  let fields := wireFields s
  if !t.isActive fields && fields.isEmpty && !s.strict then return []
  else
    let arms ← fields.mapM (elementArm t)
    return [
      .braces s!"for (field_name, element) in {elements}"
        (t.meetName "field_name" ++ branches "field_name" arms (otherNames k s arms.isEmpty)),
      .gap]

def sequenceLoop (s : Struct) : Except EmitError (List Code) := do
  let fields := s.docSequenceFields
  if fields.isEmpty then
    return [
      .braces "if let Some(sequence) = sequences.first()" [unknownField "&sequence.name"],
      .gap]
  else
    let arms ← fields.mapM (sequenceArm (Tracking.of s))
    let otherwise : List Code :=
      [.line "\x7d else \x7b", .indented [unknownField "&sequence.name"], .line "\x7d"]
    return [.braces "for sequence in sequences" (branches "sequence.name" arms otherwise), .gap]

def chainedParsers (s : Struct) : Except EmitError (List Code) := do
  let lines ← s.fields.filterMapM fun f => do
    match f.chained, f.kind with
    | true, .struct target =>
      if s.inlineChained then return none
      else return some (Code.line s!"self.{f.rustName} = {target.rustName}::parse(ctxt, bson_object)?;")
    | true, .basic t =>
      let value ← deserializerCall t "bson_object"
      return some (Code.line s!"self.{f.rustName} = {value};")
    | _, _ => return none
  return if lines.isEmpty then [] else lines ++ [.gap]

def commandElement (k : Flavour) : List Code × String :=
  match k with
  | .plain => ([], "bson_object.iter()")
  | .ignored =>
    ([.line "let mut elements = bson_object.iter();", .line "elements.next();", .gap], "elements")
  | .collection _ | .typed _ =>
    ([.line "let mut elements = bson_object.iter();",
      .line "let command_element = elements.next().map(|(_, element)| element);", .gap], "elements")

def commandValue (k : Flavour) : Except EmitError (List Code) := do
  let guarded (body : List Code) : List Code :=
    [.braces "if let Some(command_element) = command_element" body, .gap]
  match k with
  | .plain | .ignored => return []
  | .collection orUuid =>
    return guarded [.line (
      if orUuid then "self.nss_or_uuid = ctxt.parse_ns_or_uuid(&self.db_name, command_element)?;"
      else "self.nss = ctxt.parse_ns_collection_required(&self.db_name, command_element)?;")]
  | .typed f =>
    let source : ElementSource := {
      context := "ctxt", contextRef := "ctxt", fieldName := "Self::COMMAND_NAME"
      element := "command_element", childName := "Self::COMMAND_NAME" }
    let (steps, value) ← fieldSteps f source
    return guarded (Step.renderAll steps ++ [.line s!"self.{f.rustName} = {value};"])

def fillMethod (k : Flavour) (s : Struct) : Except EmitError (List Code) := do
  let t := Tracking.of s
  let fields := wireFields s
  let (capture, elements) := commandElement k
  let loop ← elementLoop k s elements
  let sequences ← if k.isCommand then sequenceLoop s else pure []
  let chained ← chainedParsers s
  let command ← commandValue k
  return [
    .braces k.fillSignature
      (t.declaration fields ++ capture ++ loop ++ sequences ++ t.completion fields ++ chained ++
        command ++ [.line "Ok(())"]),
    .gap]

def decoders (k : Flavour) (s : Struct) : Except EmitError (List Code) := do
  let blanks := ", ".intercalate (k.constructorArguments.map fun _ => "Default::default()")
  let body (call : String) : List Code :=
    [.line s!"let mut object = {s.rustName}::new({blanks});", .line call, .line "Ok(object)"]
  let sequences := if k.isCommand then ", &[]" else ""
  let parse : List Code :=
    [.braces ("pub " ++ Flavour.parseSignature s)
      (body s!"object.parse_protected(ctxt, bson_object{sequences})?;"), .gap]
  let request : List Code :=
    if k.isCommand then
      [.braces ("pub " ++ Flavour.requestParseSignature s)
        (body "object.parse_protected(ctxt, &request.body, &request.sequences)?;"), .gap]
    else []
  let fill ← fillMethod k s
  return parse ++ request ++ fill

def validatorMethod (f : Field) (v : Validator) : List Code :=
  let type := f.elementStorage.storageType
  let bounds := v.bounds.map fun (op, limit) =>
    let limit := numberLiteral type limit
    let name := textLiteral f.name
    let operator := textLiteral op
    Code.braces s!"if !(*value {op} ({limit}))"
      [.line s!"return Err(comparison_error(ctxt, {name}, {operator}, value, &({limit})));"]
  let callback := v.callback.toList.map fun c => Code.line s!"{c}(value)?;"
  let unused : List Code :=
    if bounds.isEmpty && callback.isEmpty then [.line "let _ = (ctxt, value);"] else []
  [.braces s!"fn validate_{f.rustName}(ctxt: Option<&ParserContext>, value: &{type}) -> Result<(), IdlError>"
    (bounds ++ callback ++ unused ++ [.line "Ok(())"]),
   .gap]

def validatorMethods (s : Struct) : List Code :=
  (storedFields s).flatMap fun f => f.validator.toList.flatMap (validatorMethod f)

end WireSchema.Emit
