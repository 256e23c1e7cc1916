import WireSchema.Emit.Value

namespace WireSchema.Emit

open WireSchema.Bound (Alternative AlternativeKind Enum EnumType Variant)

def defaultImpl (name value : String) : List Code :=
  [.braces s!"impl Default for {name}" [.braces s!"fn default() -> {name}" [.line value]], .gap]

def wireLiteral (e : Enum) (value : String) : String :=
  match e.type with
  | .string => textLiteral value
  | .int => value

def enumDeclaration (e : Enum) : Except EmitError (List Code) :=
  match e.values with
  | [] => .error (.emptyEnum e.name)
  | first :: _ =>
    let layout : List Code :=
      match e.type with
      | .string => []
      | .int => [.line "#[repr(i32)]"]
    let entries := e.values.map fun v =>
      match e.type with
      | .string => Code.line s!"{v.rustName},"
      | .int => Code.line s!"{v.rustName} = {v.value},"
    .ok <|
      documentation e.description ++
      [.line "#[derive(Debug, Clone, Copy, PartialEq, Eq, PartialOrd, Ord, Hash)]"] ++
      layout ++
      [.braces s!"pub enum {e.rustName}" entries, .gap] ++
      defaultImpl e.rustName s!"{e.rustName}::{first.rustName}"

def enumDefinition (e : Enum) : List Code :=
  let (argument, result) :=
    match e.type with
    | .string => ("&str", "&'static str")
    | .int => ("i32", "i32")
  let readArms := e.values.map fun v =>
    let wire := wireLiteral e v.value
    Code.line s!"{wire} => Ok({e.rustName}::{v.rustName}),"
  let writeArms := e.values.map fun v =>
    let wire := wireLiteral e v.value
    Code.line s!"{e.rustName}::{v.rustName} => {wire},"
  [.braces s!"impl {e.rustName}"
    [.braces s!"pub fn parse(ctxt: &ParserContext, value: {argument}) -> Result<{e.rustName}, IdlError>"
      [.braces "match value" (readArms ++ [.line "_ => Err(ctxt.bad_enum_value(value)),"])],
     .gap,
     .braces s!"pub fn serialize(self) -> {result}" [.braces "match self" writeArms]],
   .gap]

def alternativeType (a : Alternative) : String :=
  match a.kind with
  | .basic t => Text.trim t.rustType
  | .struct target => target.rustName

def variantDeclaration (comparable : Bool) (v : Variant) : Except EmitError (List Code) :=
  match v.alternatives with
  | [] => .error (.emptyVariant v.rustName)
  | first :: _ =>
    let derived :=
      if comparable then "#[derive(Debug, Clone, PartialEq, PartialOrd)]"
      else "#[derive(Debug, Clone)]"
    let entries := v.alternatives.map fun a =>
      let stored := alternativeType a
      Code.line s!"{a.rustName}({stored}),"
    .ok <|
      [.line derived, .braces s!"pub enum {v.rustName}" entries, .gap] ++
      defaultImpl v.rustName s!"{v.rustName}::{first.rustName}(Default::default())"

def variantDefinition (v : Variant) : Except EmitError (List Code) := do
  let arms ← v.alternatives.mapM fun a => do
    let value ← alternativeToBson a.kind "value"
    return Code.line s!"{v.rustName}::{a.rustName}(value) => Bson::from({value}),"
  return [
    .braces s!"impl {v.rustName}" [.braces "pub fn to_bson(&self) -> Bson" [.braces "match self" arms]],
    .gap]

end WireSchema.Emit
