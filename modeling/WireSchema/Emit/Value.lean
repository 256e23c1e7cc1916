import WireSchema.Bound.Model
import WireSchema.Emit.Error
import WireSchema.Emit.Name
import WireSchema.Emit.Writer

namespace WireSchema.Emit

open WireSchema.Bound (Alternative AlternativeKind BasicType Field FieldKind Variant)

-- `contextRef` is the context as a reference.
structure ElementSource where
  context : String
  contextRef : String
  fieldName : String
  element : String
  childName : String

def deserializerCall (t : BasicType) (argument : String) : Except EmitError String :=
  match t.deserializer with
  | none => .error (.missingDeserializer t.name)
  | some d =>
    let rustType := Text.trim t.rustType
    if isFreeFunction d then .ok s!"{d}({argument})?"
    else if rustType.contains '<' then .ok s!"<{rustType}>::{d}({argument})?"
    else .ok s!"{rustType}::{d}({argument})?"

def kindOf (tag : String) : Except EmitError Bson.Kind :=
  match Bson.Kind.ofName? tag with
  | some k => .ok k
  | none => .error (.unknownWireType tag)

def kindsOf (tags : List String) : Except EmitError (List Bson.Kind) :=
  tags.mapM fun tag =>
    match Bson.Kind.ofName? tag with
    | some k => .ok k
    | none => .error (EmitError.missingElementType tag)

def subtypeOf (t : BasicType) : Except EmitError Bson.Subtype :=
  match t.subtype.bind Bson.Subtype.ofName? with
  | some s => .ok s
  | none => .error (.missingSubtype t.name)

def kindConstant (k : Bson.Kind) : String :=
  (Schema.WireType.infoOf k).elementType

def kindConstants (kinds : List Bson.Kind) : String :=
  "&[" ++ ", ".intercalate (kinds.map kindConstant) ++ "]"

inductive ElementCheck where
  | kind (expected : Bson.Kind)
  | kinds (expected : List Bson.Kind)
  | subtype (expected : Bson.Subtype)
deriving DecidableEq, Repr

def ElementCheck.text (s : ElementSource) : ElementCheck → String
  | kind expected =>
    let constant := kindConstant expected
    s!"{s.context}.check_and_assert_type({s.fieldName}, {s.element}, {constant})?;"
  | kinds expected =>
    let constants := kindConstants expected
    s!"{s.context}.check_and_assert_types({s.fieldName}, {s.element}, {constants})?;"
  | subtype expected =>
    let constant := Schema.WireType.subtypeConstant expected
    s!"{s.context}.check_and_assert_bin_data_type({s.fieldName}, {s.element}, {constant})?;"

def ElementCheck.code (check : ElementCheck) (s : ElementSource) : Code :=
  .line (check.text s)

def singleValue (t : BasicType) (tag element : String) : Except EmitError String := do
  match Schema.WireType.info? tag with
  | none => .error (.unknownWireType tag)
  | some info =>
    match info.accessor with
    | none => .error (.undecodable tag)
    | some accessor =>
      if t.deserializer.isSome then deserializerCall t s!"{element}.{accessor}"
      else .ok s!"{element}.{accessor}{info.toOwned}"

-- Only a type with a single wire type looks at the subtype of binary data.
def typeCheck (t : BasicType) : Except EmitError ElementCheck := do
  match t.singleWireType? with
  | some tag =>
    if tag == "bindata" then return .subtype (← subtypeOf t)
    else return .kind (← kindOf tag)
  | none => return .kinds (← kindsOf t.wireTypes)

def basicValue (t : BasicType) (s : ElementSource) : Except EmitError (List Code × String) := do
  if t.isAny then return ([], ← deserializerCall t s.element)
  else
    let check ← typeCheck t
    match t.singleWireType? with
    | some tag => return ([check.code s], ← singleValue t tag s.element)
    | none => return ([check.code s], ← deserializerCall t s.element)

def childContext (s : ElementSource) : String :=
  s!"&ParserContext::with_parent({s.childName}, {s.contextRef})"

def alternativeArms (v : Variant) (s : ElementSource) (a : Alternative) :
    Except EmitError (List String × List String) := do
  let constructor := s!"{v.rustName}::{a.rustName}"
  match a.kind with
  | .struct target =>
    let child := childContext s
    return (["object"],
      [s!"ElementType::Object => {constructor}({target.rustName}::parse({child}, {s.element}.as_document())?),"])
  | .basic t =>
    match t.singleWireType? with
    | some tag =>
      if tag == "bindata" then
        let check := ElementCheck.subtype (← subtypeOf t)
        let value ← singleValue t tag s.element
        return ([tag],
          ["ElementType::BinData => \x7b",
            "    " ++ check.text s,
            s!"    {constructor}({value})",
            "\x7d"])
      else
        let constant := kindConstant (← kindOf tag)
        let value ← singleValue t tag s.element
        return ([tag], [s!"{constant} => {constructor}({value}),"])
    | none =>
      let value ← deserializerCall t s.element
      let arms ← t.wireTypes.mapM fun tag => do
        let constant := kindConstant (← kindOf tag)
        return s!"{constant} => {constructor}({value}),"
      return (t.wireTypes, arms)

def variantValue (v : Variant) (s : ElementSource) : Except EmitError String := do
  let parts ← v.alternatives.mapM (alternativeArms v s)
  let constants := kindConstants (← kindsOf (parts.flatMap (·.1)))
  let last := s!"_ => return Err({s.context}.wrong_type({s.fieldName}, {s.element}, {constants})),"
  let arms := parts.flatMap (·.2) ++ [last]
  return s!"match {s.element}.element_type() \x7b" ++ String.join (arms.map ("\n    " ++ ·)) ++
    "\n\x7d"

def elementValue (kind : FieldKind) (s : ElementSource) :
    Except EmitError (List Code × String) := do
  match kind with
  | .basic t => basicValue t s
  | .enum e =>
    let (kind, accessor) :=
      match e.type with
      | .string => (Bson.Kind.string, "as_str()")
      | .int => (Bson.Kind.int32, "as_i32()")
    let child := childContext s
    return ([(ElementCheck.kind kind).code s],
      s!"{e.rustName}::parse({child}, {s.element}.{accessor})?")
  | .struct target =>
    let child := childContext s
    return ([(ElementCheck.kind .object).code s],
      s!"{target.rustName}::parse({child}, {s.element}.as_document())?")
  | .variant v => return ([], ← variantValue v s)

def basicToBson (t : BasicType) (expr : String) (isRef : Bool) : Except EmitError String := do
  match t.serializer with
  | some serializer =>
    if isFreeFunction serializer then
      let argument := if isRef then expr else "&" ++ expr
      return s!"{serializer}({argument})"
    else return s!"{expr}.{serializer}()"
  | none =>
    if t.singleWireType? == some "bindata" && t.deserializer.isNone then
      let subtype := Schema.WireType.subtypeConstant (← subtypeOf t)
      return s!"BinData::new({subtype}, {expr}.clone())"
    else if isScalarType t.rustType then return if isRef then "*" ++ expr else expr
    else return expr ++ ".clone()"

def valueToBson (kind : FieldKind) (expr : String) (isRef : Bool) : Except EmitError String :=
  match kind with
  | .basic t => basicToBson t expr isRef
  | .enum _ => .ok (expr ++ ".serialize()")
  | .struct _ | .variant _ => .ok (expr ++ ".to_bson()")

def alternativeToBson (kind : AlternativeKind) (expr : String) : Except EmitError String :=
  match kind with
  | .basic t => basicToBson t expr true
  | .struct _ => .ok (expr ++ ".to_bson()")

def anySerializer (t : BasicType) (name value : String) : Except EmitError (List Code) :=
  match t.serializer with
  | none => .error (.missingSerializer t.name)
  | some serializer =>
    if isFreeFunction serializer then .ok [.line s!"{serializer}({value}, {name}, builder);"]
    else
      let receiver := String.ofList (value.toList.dropWhile (· == '&'))
      .ok [.line s!"{receiver}.{serializer}({name}, builder);"]

def presentValue (f : Field) (name expr : String) (isRef : Bool) :
    Except EmitError (List Code) := do
  let reference := if isRef then expr else "&" ++ expr
  let plain : Except EmitError (List Code) := do
    if !f.array then
      let value ← valueToBson f.kind expr isRef
      return [.line s!"builder.append({name}, {value});"]
    else
      let item ← valueToBson f.kind "item" true
      return [
        .line "let mut array_builder = ArrayBuilder::new();",
        .braces s!"for item in {reference}" [.line s!"array_builder.push({item});"],
        .line s!"builder.append({name}, array_builder);"]
  match f.kind with
  | .basic t => if t.isAny then anySerializer t name reference else plain
  | _ => plain

def placeSerializer (f : Field) (name place : String) : Except EmitError (List Code) := do
  if f.optional then
    let body ← presentValue f name "value" true
    return [.braces s!"if let Some(value) = &{place}" body]
  else presentValue f name place false

end WireSchema.Emit
