import WireSchema.Bound.Model
import WireSchema.Emit.Name
import WireSchema.Number.Integer
import WireSchema.Schema.SymbolTable

namespace WireSchema.Bound

open Schema (Report TypeDef EnumDef StructDef Expression Resolved Location)
open Schema (WireType.any WireType.chain)

def checkSubtype (t : TypeDef) (single : Option String) : Report Unit :=
  match t.subtype, single with
  | none, some "bindata" => Report.complain t.location (.missingSubtype t.name)
  | some subtype, some "bindata" =>
    if Schema.WireType.isValidSubtype subtype then return ()
    else Report.complain t.location (.badSubtype subtype)
  | some _, _ => Report.complain t.location (.subtypeWithoutBinary t.name)
  | none, _ => return ()

def checkCodec (t : TypeDef) (single : Option String) : Report Unit :=
  let isAny := t.wireTypes.contains WireType.any
  let isChain := t.wireTypes.contains WireType.chain
  if isAny || isChain then
    if t.serializer.isNone || t.deserializer.isNone then
      Report.complain t.location
        (.sentinelWithoutCodec t.name (if isAny then WireType.any else WireType.chain))
    else return ()
  else if t.deserializer.isSome then return ()
  else
    let storage := Text.trim (t.rustType.getD "")
    if 1 < t.wireTypes.length || single.bind Schema.WireType.naturalType? != some storage then
      Report.complain t.location (.missingDeserializer t.name storage)
    else return ()

-- A fault in the list of wire types hides all others.
def checkType (t : TypeDef) : Report Unit :=
  match t.wireTypes.find? (!Schema.WireType.isValid ·) with
  | some tag => Report.complain t.location (.badWireType tag t.name)
  | none =>
    let several := decide (1 < t.wireTypes.length)
    let sentinel := t.wireTypes.contains WireType.any || t.wireTypes.contains WireType.chain
    if several && sentinel then Report.complain t.location (.mixedSentinel t.name)
    else
      match t.wireTypes.find? (!Schema.WireType.isScalar ·), several with
      | some tag, true => Report.complain t.location (.severalContainers t.name tag)
      | _, _ => do
        let single :=
          match t.wireTypes with
          | [tag] => some tag
          | _ => none
        checkSubtype t single
        checkCodec t single

def enumTypeOf (e : EnumDef) : EnumType :=
  if e.type == "int" then .int else .string

def enumRustName (e : EnumDef) : String :=
  Emit.typeName (e.rustName.getD e.name)

def structRustName (s : StructDef) : String :=
  Emit.typeName (s.rustName.getD s.name)

def bindEnumValues (e : EnumDef) (names values : List String) :
    List Schema.EnumValue → Report (List EnumValue)
  | [] => return []
  | v :: rest => do
    let rustName := Emit.enumeratorName v.name
    if names.contains rustName then
      Report.complain v.location (.duplicateEnumName e.name v.name)
    if values.contains v.value then
      Report.complain v.location (.duplicateEnumValue e.name v.value)
    if e.type == "int" && (Integer.int32? v.value).isNone then
      Report.complain v.location (.badEnumNumber v.value)
    let bound ← bindEnumValues e (rustName :: names) (v.value :: values) rest
    return { name := v.name, rustName, value := v.value } :: bound

def bindEnum (e : EnumDef) : Report (Option Enum) :=
  if e.type != "string" && e.type != "int" then
    Report.reject e.location (.badEnumType e.name e.type)
  else
    Report.ifClean do
      let values ← bindEnumValues e [] [] e.values
      if e.values.isEmpty then Report.complain e.location (.emptyEnum e.name)
      return {
        name := e.name, rustName := enumRustName e, description := e.description
        type := enumTypeOf e, values }

def basicDefault (e : Expression) (rustType : String) : DefaultValue :=
  let t := Text.trim rustType
  match e.literal.or e.code with
  | none => ⟨"Default::default()", false⟩
  | some text =>
    if Emit.isScalarType t then ⟨Emit.numberLiteral t text, true⟩
    else
      let argument := if e.literal.isSome then Emit.textLiteral text else text
      ⟨s!"{t}::from({argument})", false⟩

def basicTypeOf (t : TypeDef) : BasicType :=
  let rustType := t.rustType.getD ""
  { name := t.name, rustType, wireTypes := t.wireTypes, subtype := t.subtype,
    serializer := t.serializer, deserializer := t.deserializer,
    default := t.default.map fun d => (basicDefault d rustType).code }

def structRefOf (s : StructDef) : StructRef :=
  ⟨s.name, structRustName s⟩

def fieldKindOf : Resolved → FieldKind
  | .type t => .basic (basicTypeOf t)
  | .enum e => .enum ⟨e.name, enumRustName e, enumTypeOf e⟩
  | .struct s => .struct (structRefOf s)

def sentinel? : Resolved → Option String
  | .type t =>
    if t.wireTypes.contains WireType.any then some WireType.any
    else if t.wireTypes.contains WireType.chain then some WireType.chain
    else none
  | _ => none

end WireSchema.Bound
