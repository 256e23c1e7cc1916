import WireSchema.Emit.Decoder

namespace WireSchema.Emit

open WireSchema.Bound (Field Struct)

def requiredAssertion (s : Struct) (request : Bool) : List Code :=
  let flags := ((flaggedFields s).filter fun f => request || !f.requestOnly).map fun f =>
    s!"self.has_{f.rustName}"
  if flags.isEmpty then []
  else
    let test := " && ".intercalate flags
    [.line s!"assert!({test}, \"{s.rustName} is missing required fields\");", .gap]

def commandSerializer (k : Flavour) : Except EmitError (List Code) :=
  match k with
  | .plain => .ok []
  | .ignored => .ok [.line "builder.append(Self::COMMAND_NAME, 1i32);"]
  | .collection false => .ok [.line "builder.append(Self::COMMAND_NAME, self.nss.coll());"]
  | .collection true =>
    .ok [.braces "match &self.nss_or_uuid"
      [.line "NamespaceStringOrUuid::Nss(nss) => builder.append(Self::COMMAND_NAME, nss.coll()),",
       .braces "NamespaceStringOrUuid::Uuid \x7b uuid, .. \x7d =>"
        [.line "builder.append(Self::COMMAND_NAME, BinData::new(BinDataSubtype::Uuid, uuid.clone()));"]]]
  | .typed f => placeSerializer f "Self::COMMAND_NAME" s!"self.{f.rustName}"

def chainedSerializer (f : Field) : Except EmitError (List Code) :=
  match f.kind with
  | .basic t =>
    match t.serializer with
    | none => .error (.missingChainSerializer t.name)
    | some serializer =>
      if isFreeFunction serializer then .ok [.line s!"{serializer}(&self.{f.rustName}, builder);"]
      else .ok [.line s!"self.{f.rustName}.{serializer}(builder);"]
  | _ => .ok [.line s!"self.{f.rustName}.serialize(builder);"]

-- A request carries document sequences beside its body.
def fieldSerializer (request : Bool) (f : Field) : Except EmitError (List Code) :=
  if f.ignore || f.owner.isSome then .ok []
  else if f.chained then chainedSerializer f
  else if f.requestOnly && !request then .ok []
  else if f.docSequence && request then .ok []
  else placeSerializer f (wireNameConstant f) s!"self.{f.rustName}"

def fieldsSerializer (k : Flavour) (s : Struct) (request : Bool) :
    Except EmitError (List Code) := do
  let command ← commandSerializer k
  let fields ← s.fields.mapM (fieldSerializer request)
  let generic : List Code :=
    if k.isCommand then
      [.line "append_generic_command_arguments(command_passthrough_fields, Self::KNOWN_FIELDS, builder);"]
    else []
  return requiredAssertion s request ++ command ++ fields.flatten ++ generic

def sequencePush (f : Field) : Code :=
  let name := wireNameConstant f
  let push (values : String) : Code :=
    let objects :=
      if f.isStruct then s!"{values}.iter().map(|value| value.to_bson()).collect()"
      else s!"{values}.clone()"
    .block "request.sequences.push(DocumentSequence \x7b" "\x7d);"
      [.line s!"name: {name}.to_owned(),", .line s!"objs: {objects},"]
  if f.optional then .braces s!"if let Some(values) = &self.{f.rustName}" [push "values"]
  else push s!"self.{f.rustName}"

def requestSerializer (k : Flavour) (s : Struct) : Except EmitError (List Code) := do
  let fields ← fieldsSerializer k s true
  let result : List Code :=
    if s.docSequenceFields.isEmpty then [.line "OpMsgRequest::new(body)"]
    else
      [.line "let mut request = OpMsgRequest::new(body);"] ++
      s.docSequenceFields.map sequencePush ++ [.line "request"]
  return [
    .braces ("pub " ++ k.requestSerializeSignature)
      ([.line "let mut body = Document::new();", .line "let builder = &mut body;"] ++ fields ++
        [.gap] ++ result),
    .gap]

def encoders (k : Flavour) (s : Struct) : Except EmitError (List Code) := do
  let fields ← fieldsSerializer k s false
  let request ← if k.isCommand then requestSerializer k s else pure []
  let passed := if k.isCommand then "command_passthrough_fields, " else ""
  return [.braces ("pub " ++ k.serializeSignature) fields, .gap] ++ request ++
    [.braces ("pub " ++ k.toBsonSignature)
      [.line "let mut builder = Document::new();",
       .line s!"self.serialize({passed}&mut builder);",
       .line "builder"],
     .gap]

def knownFields (k : Flavour) (s : Struct) : List Code :=
  if k.isCommand then
    let names := ", ".intercalate ("Self::COMMAND_NAME" :: (wireFields s).map wireNameConstant)
    [.line s!"pub const KNOWN_FIELDS: &'static [&'static str] = &[{names}];", .gap]
  else []

def sharedInterface (k : Flavour) (s : Struct) : List Code :=
  if k.isCommand then []
  else
    [.braces s!"impl IdlStruct for {s.rustName}"
      [.braces (Flavour.parseSignature s) [.line s!"{s.rustName}::parse(ctxt, bson_object)"],
       .gap,
       .braces k.serializeSignature [.line s!"{s.rustName}::serialize(self, builder)"]],
     .gap]

def structDefinition (k : Flavour) (s : Struct) : Except EmitError (List Code) := do
  let variants ← (declaredVariants k s).mapM variantDefinition
  let decode ← decoders k s
  let encode ← encoders k s
  return variants.flatten ++
    [.braces s!"impl {s.rustName}" (knownFields k s ++ validatorMethods s ++ decode ++ encode),
     .gap] ++
    sharedInterface k s

end WireSchema.Emit
