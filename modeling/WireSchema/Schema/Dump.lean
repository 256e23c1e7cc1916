import WireSchema.Schema.SymbolTable
import WireSchema.Text.Json

namespace WireSchema.Schema

def Location.toJson (l : Location) : Json :=
  .record [("file_name", .text l.file), ("line", .nat l.position.line),
    ("column", .nat l.position.column)]

def Diagnostic.toJson (d : Diagnostic) : Json :=
  .record [("error_id", .text d.fault.code), ("msg", .text d.fault.message),
    ("file_name", .text d.location.file), ("line", .nat d.location.position.line),
    ("column", .nat d.location.position.column)]

def Expression.toJson (e : Expression) : Json :=
  .record [("literal", .ofText? e.literal), ("expr", .ofText? e.code),
    ("is_constexpr", .bool e.isConstant)]

def Validator.demands (v : Validator) : List (String × Json) :=
  [("gt", .ofText? v.gt), ("lt", .ofText? v.lt), ("gte", .ofText? v.gte),
    ("lte", .ofText? v.lte), ("callback", .ofText? v.callback)]

def Validator.toJson (v : Validator) : Json :=
  .record (("location", v.location.toJson) :: v.demands)

def Condition.toJson (c : Condition) : Json :=
  .record [("expr", .ofText? c.code), ("constexpr", .ofText? c.constant),
    ("preprocessor", .ofText? c.preprocessor)]

def OptionDefaults.toJson (d : OptionDefaults) : Json :=
  .record [("location", d.location.toJson), ("section", .ofText? d.sectionName),
    ("source", .texts d.source), ("initializer_name", .ofText? d.initializer)]

def Globals.toJson (g : Globals) : Json :=
  .record [("location", g.location.toJson), ("rust_module", .ofText? g.rustModule),
    ("uses", .texts g.uses), ("configs", .ofOption OptionDefaults.toJson g.options)]

def Imports.toJson (i : Imports) : Json :=
  .record [("location", i.location.toJson), ("imports", .texts i.files),
    ("resolved_imports", .texts i.resolved), ("dependencies", .texts i.dependencies)]

def TypeDef.toJson (t : TypeDef) : Json :=
  .record [("location", t.location.toJson), ("name", .text t.name),
    ("description", .ofText? t.description), ("rust_type", .ofText? t.rustType),
    ("bson_serialization_type", .texts t.wireTypes), ("bindata_subtype", .ofText? t.subtype),
    ("serializer", .ofText? t.serializer), ("deserializer", .ofText? t.deserializer),
    ("default", .ofOption Expression.toJson t.default), ("imported", .bool t.imported)]

mutual

def TypeRef.toJson : TypeRef → Json
  | .single name => .record [("kind", .text "single"), ("type", .text name)]
  | .array element => .record [("kind", .text "array"), ("type", .text element)]
  | .variant alternatives =>
    .record [("kind", .text "variant"), ("type", .list (TypeRef.listToJson alternatives))]

def TypeRef.listToJson : List TypeRef → List Json
  | [] => []
  | t :: rest => t.toJson :: TypeRef.listToJson rest

end

def FieldDef.toJson (f : FieldDef) : Json :=
  .record [("location", f.location.toJson), ("name", .text f.name),
    ("rust_name", .ofText? f.rustName), ("description", .ofText? f.description),
    ("field_type", .ofOption TypeRef.toJson f.type), ("ignore", .bool f.ignore),
    ("optional", .bool f.optional), ("default", .ofOption Expression.toJson f.default),
    ("supports_doc_sequence", .bool f.docSequence),
    ("comparison_order", .number f.comparisonOrder),
    ("validator", .ofOption Validator.toJson f.validator), ("unstable", .bool f.unstable),
    ("serialize_op_msg_request_only", .bool f.requestOnly)]

def Chained.toJson (c : Chained) : Json :=
  .record [("location", c.location.toJson), ("name", .text c.name),
    ("rust_name", .text c.rustName)]

def StructDef.entries (s : StructDef) : List (String × Json) :=
  [("location", s.location.toJson), ("name", .text s.name), ("rust_name", .ofText? s.rustName),
    ("description", .ofText? s.description), ("strict", .bool s.strict),
    ("immutable", .bool s.immutable), ("inline_chained_structs", .bool s.inlineChained),
    ("generate_comparison_operators", .bool s.comparable),
    ("chained_types", .list (s.chainedTypes.map Chained.toJson)),
    ("chained_structs", .list (s.chainedStructs.map Chained.toJson)),
    ("fields", .list (s.fields.map FieldDef.toJson)), ("imported", .bool s.imported)]

def StructDef.toJson (s : StructDef) : Json :=
  .record s.entries

def CommandDef.toJson (c : CommandDef) : Json :=
  .record (c.base.entries ++
    [("command_name", .text c.commandName), ("namespace", .text c.namespaceRule.name),
      ("command_type", .ofOption TypeRef.toJson c.commandType),
      ("api_version", .text c.apiVersion), ("reply_type", .ofText? c.replyType)])

def EnumValue.toJson (v : EnumValue) : Json :=
  .record [("location", v.location.toJson), ("name", .text v.name), ("value", .text v.value)]

def EnumDef.toJson (e : EnumDef) : Json :=
  .record [("location", e.location.toJson), ("name", .text e.name),
    ("rust_name", .ofText? e.rustName), ("description", .ofText? e.description),
    ("enum_type", .text e.type), ("values", .list (e.values.map EnumValue.toJson)),
    ("imported", .bool e.imported)]

def ParameterDef.toJson (p : ParameterDef) : Json :=
  .record [("location", p.location.toJson), ("name", .text p.name),
    ("description", .ofText? p.description), ("set_at", .texts p.setAt),
    ("rust_vartype", .ofText? p.rustType), ("rust_varname", .ofText? p.rustVariable),
    ("condition", .ofOption Condition.toJson p.condition),
    ("deprecated_name", .texts p.deprecatedNames), ("redact", .bool p.redact),
    ("test_only", .bool p.testOnly), ("default", .ofOption Expression.toJson p.default),
    ("validator", .ofOption Validator.toJson p.validator), ("on_update", .ofText? p.onUpdate),
    ("from_string", .ofText? p.fromString), ("append_bson", .ofText? p.appendBson)]

def OptionDef.toJson (o : OptionDef) : Json :=
  .record [("location", o.location.toJson), ("name", .text o.name),
    ("short_name", .ofText? o.shortName), ("single_name", .ofText? o.singleName),
    ("deprecated_name", .texts o.deprecatedNames),
    ("deprecated_short_name", .texts o.deprecatedShortNames),
    ("description", .ofText? o.description), ("section", .ofText? o.sectionName),
    ("arg_vartype", .ofText? o.argType), ("rust_vartype", .ofText? o.rustType),
    ("rust_varname", .ofText? o.rustVariable),
    ("condition", .ofOption Condition.toJson o.condition), ("conflicts", .texts o.conflicts),
    ("requires", .texts o.requires), ("hidden", .bool o.hidden), ("redact", .bool o.redact),
    ("default", .ofOption Expression.toJson o.default),
    ("implicit", .ofOption Expression.toJson o.implicit), ("source", .texts o.source),
    ("duplicate_behavior", .ofText? o.duplicates), ("positional", .ofText? o.positional),
    ("validator", .ofOption Validator.toJson o.validator)]

def SymbolTable.toJson (t : SymbolTable) : Json :=
  .record [("commands", .list (t.commands.map CommandDef.toJson)),
    ("enums", .list (t.enums.map EnumDef.toJson)),
    ("structs", .list (t.structs.map StructDef.toJson)),
    ("types", .list (t.types.map TypeDef.toJson))]

def Spec.toJson (s : Spec) : Json :=
  .record [("globals", .ofOption Globals.toJson s.globals),
    ("imports", .ofOption Imports.toJson s.imports), ("symbols", s.symbols.toJson),
    ("server_parameters", .list (s.parameters.map ParameterDef.toJson)),
    ("configs", .list (s.options.map OptionDef.toJson))]

end WireSchema.Schema
