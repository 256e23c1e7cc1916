import WireSchema.Bound.Model
import WireSchema.Schema.Dump

namespace WireSchema.Bound

def EnumType.toJson : EnumType → Json
  | string => .text "String"
  | int => .text "Int"

def EnumValue.toJson (v : EnumValue) : Json :=
  .record [("name", .text v.name), ("rust_name", .text v.rustName), ("value", .text v.value)]

def Enum.toJson (e : Enum) : Json :=
  .record [("name", .text e.name), ("rust_name", .text e.rustName),
    ("description", .ofText? e.description), ("enum_type", e.type.toJson),
    ("values", .list (e.values.map EnumValue.toJson))]

def Validator.toJson (v : Validator) : Json :=
  .record [("gt", .ofText? v.gt), ("lt", .ofText? v.lt), ("gte", .ofText? v.gte),
    ("lte", .ofText? v.lte), ("callback", .ofText? v.callback)]

def BasicType.toJson (t : BasicType) : Json :=
  .record [("name", .text t.name), ("rust_type", .text t.rustType),
    ("bson_serialization_type", .texts t.wireTypes), ("bindata_subtype", .ofText? t.subtype),
    ("serializer", .ofText? t.serializer), ("deserializer", .ofText? t.deserializer),
    ("default", .ofText? t.default)]

def StructRef.toJson (s : StructRef) : Json :=
  .record [("name", .text s.name), ("rust_name", .text s.rustName)]

def EnumRef.toJson (e : EnumRef) : Json :=
  .record [("name", .text e.name), ("rust_name", .text e.rustName),
    ("enum_type", e.type.toJson)]

def AlternativeKind.toJson : AlternativeKind → Json
  | basic t => .record [("Basic", t.toJson)]
  | struct s => .record [("Struct", s.toJson)]

def Alternative.toJson (a : Alternative) : Json :=
  .record [("rust_name", .text a.rustName), ("kind", a.kind.toJson)]

def Variant.toJson (v : Variant) : Json :=
  .record [("rust_name", .text v.rustName),
    ("alternatives", .list (v.alternatives.map Alternative.toJson))]

def FieldKind.toJson : FieldKind → Json
  | basic t => .record [("Basic", t.toJson)]
  | enum e => .record [("Enum", e.toJson)]
  | struct s => .record [("Struct", s.toJson)]
  | variant v => .record [("Variant", v.toJson)]

def DefaultValue.toJson (d : DefaultValue) : Json :=
  .record [("expr", .text d.code), ("constant", .bool d.constant)]

def Field.toJson (f : Field) : Json :=
  .record [("name", .text f.name), ("rust_name", .text f.rustName),
    ("description", .ofText? f.description), ("kind", f.kind.toJson), ("array", .bool f.array),
    ("optional", .bool f.optional), ("ignore", .bool f.ignore), ("chained", .bool f.chained),
    ("chained_struct_field", .ofText? f.owner),
    ("default", .ofOption DefaultValue.toJson f.default),
    ("validator", .ofOption Validator.toJson f.validator),
    ("comparison_order", .number f.comparisonOrder),
    ("supports_doc_sequence", .bool f.docSequence),
    ("serialize_op_msg_request_only", .bool f.requestOnly), ("unstable", .bool f.unstable)]

def Command.toJson (c : Command) : Json :=
  .record [("command_name", .text c.commandName), ("namespace", .text c.namespaceRule.name),
    ("command_field", .ofOption Field.toJson c.commandField),
    ("api_version", .text c.apiVersion), ("reply_type", .ofText? c.replyType)]

def Struct.toJson (s : Struct) : Json :=
  .record [("name", .text s.name), ("rust_name", .text s.rustName),
    ("description", .ofText? s.description), ("strict", .bool s.strict),
    ("immutable", .bool s.immutable), ("inline_chained_structs", .bool s.inlineChained),
    ("generate_comparison_operators", .bool s.comparable),
    ("fields", .list (s.fields.map Field.toJson)),
    ("command", .ofOption Command.toJson s.command)]

def Globals.toJson (g : Globals) : Json :=
  .record [("rust_module", .ofText? g.rustModule), ("uses", .texts g.uses),
    ("initializer_name", .ofText? g.initializer)]

def Parameter.toJson (p : Parameter) : Json :=
  .record [("name", .text p.name), ("description", .ofText? p.description),
    ("set_at", .text p.setAt.name), ("rust_vartype", .ofText? p.rustType),
    ("rust_varname", .ofText? p.rustVariable),
    ("condition", .ofOption Schema.Condition.toJson p.condition),
    ("deprecated_names", .texts p.deprecatedNames), ("redact", .bool p.redact),
    ("test_only", .bool p.testOnly), ("default", .ofOption Schema.Expression.toJson p.default),
    ("validator", .ofOption Validator.toJson p.validator), ("on_update", .ofText? p.onUpdate),
    ("from_string", .ofText? p.fromString), ("append_bson", .ofText? p.appendBson)]

def OptionEntry.toJson (o : OptionEntry) : Json :=
  .record [("name", .text o.name), ("single_name", .text o.singleName),
    ("deprecated_names", .texts o.deprecatedNames),
    ("deprecated_short_names", .texts o.deprecatedShortNames),
    ("description", .text o.description), ("section", .ofText? o.sectionName),
    ("arg_vartype", .text o.type.name), ("rust_vartype", .ofText? o.rustType),
    ("rust_varname", .ofText? o.rustVariable),
    ("condition", .ofOption Schema.Condition.toJson o.condition),
    ("conflicts", .texts o.conflicts), ("requires", .texts o.requires),
    ("hidden", .bool o.hidden), ("redact", .bool o.redact),
    ("default", .ofOption Schema.Expression.toJson o.default),
    ("implicit", .ofOption Schema.Expression.toJson o.implicit), ("sources", .texts o.sources),
    ("composing", .bool o.composing),
    ("positional", .ofOption (fun (a, b) => .list [.number a, .number b]) o.positional),
    ("validator", .ofOption Validator.toJson o.validator)]

def Idl.toJson (i : Idl) : Json :=
  .record [("globals", i.globals.toJson), ("enums", .list (i.enums.map Enum.toJson)),
    ("structs", .list (i.structs.map Struct.toJson)),
    ("server_parameters", .list (i.parameters.map Parameter.toJson)),
    ("configs", .list (i.options.map OptionEntry.toJson))]

end WireSchema.Bound
