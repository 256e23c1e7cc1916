import WireSchema.Bound.TypeBinding

namespace WireSchema.Bound

open Schema (Report Expression FieldDef Location Resolved SymbolTable TypeRef)

structure VariantDraft where
  -- Wire types with the alternative that took each last.
  tags : List (String × String) := []
  structSeen : Bool := false
  alternatives : List Alternative := []

def claimTags (location : Location) (field name : String) :
    List (String × String) → List String → Report (List (String × String))
  | tags, [] => return tags
  | tags, tag :: rest => do
    match tags.lookup tag with
    | some previous => Report.complain location (.overlap field previous name tag)
    | none => pure ()
    -- The newcomer takes the wire type over, so the next clash is with it.
    claimTags location field name ((tag, name) :: tags) rest

def addAlternative (location : Location) (field : String) (d : VariantDraft) (r : Resolved) :
    Report VariantDraft := do
  let add (d : VariantDraft) (wireTypes : List String) (kind : AlternativeKind) := do
    let tags ← claimTags location field r.name d.tags wireTypes
    return { d with
      tags, alternatives := d.alternatives ++ [{ rustName := Emit.typeName r.name, kind }] }
  match r with
  | .type t =>
    if (sentinel? r).isSome then
      Report.complain location (.sentinelAlternative field t.name)
      return d
    else add d t.wireTypes (.basic (basicTypeOf t))
  | .enum e =>
    Report.complain location (.enumAlternative field e.name)
    return d
  | .struct s =>
    if d.structSeen then
      Report.complain location (.severalStructs field)
      return d
    else add { d with structSeen := true } ["object"] (.struct (structRefOf s))

def bindVariant (location : Location) (field : String) (alternatives : List Resolved)
    (rustName : String) : Report (Option Variant) :=
  Report.ifClean do
    let d ← alternatives.foldlM (addAlternative location field) {}
    return { rustName, alternatives := d.alternatives }

def nestedAlternative? : TypeRef → Option TypeRef
  | .variant alternatives =>
    alternatives.find? fun a =>
      match a with
      | .single _ => false
      | _ => true
  | _ => none

def bindFieldKind (symbols : SymbolTable) (location : Location) (field : String) (type : TypeRef)
    (variantName : String) : Report (Option (FieldKind × Bool)) := do
  match nestedAlternative? type with
  | some bad => Report.reject location (.badAlternative field bad.text)
  | none =>
    match ← symbols.resolveField location field type with
    | none => return none
    | some (.single r) =>
      if sentinel? r == some Schema.WireType.chain then
        Report.reject location (.chainTypeInField field r.name)
      else return some (fieldKindOf r, false)
    | some (.array r) =>
      match sentinel? r with
      | some sentinel => Report.reject location (.arrayOfSentinel field r.name sentinel)
      | none => return some (fieldKindOf r, true)
    | some (.variant rs) =>
      let v ← bindVariant location field rs variantName
      return v.map fun v => (.variant v, false)

def bindValidator (v : Option Schema.Validator) : Option Validator :=
  (v.filter (!·.isEmpty)).map fun v =>
    { gt := v.gt, lt := v.lt, gte := v.gte, lte := v.lte, callback := v.callback }

-- The default of an enum names or spells one of its values.
def bindDefault (symbols : SymbolTable) (location : Location) (field : String) (e : Expression) :
    FieldKind → Report (Option DefaultValue)
  | .basic t => return some (basicDefault e t.rustType)
  | .enum target =>
    let value := (symbols.enum? target.name).bind fun d =>
      d.values.find? fun v => v.name == e.text || v.value == e.text
    match value with
    | some v => return some ⟨s!"{target.rustName}::{Emit.enumeratorName v.name}", true⟩
    | none => Report.reject location (.badEnumDefault e.text field target.name)
  | .struct s => return some ⟨s!"{s.rustName}::from({e.text})", false⟩
  | .variant v => return some ⟨s!"{v.rustName}::from({e.text})", false⟩

def isOrdered : FieldKind → Bool
  | .basic t => !t.isDocument && !t.isAny
  | _ => false

def memberNameOf (name : String) : String :=
  Emit.unreserved (Emit.memberName name)

def declaredKind (symbols : SymbolTable) (f : FieldDef) (variantName : String) :
    Report (Option (FieldKind × Bool)) :=
  match f.type with
  | some type => bindFieldKind symbols f.location f.name type variantName
  | none => return (symbols.type? "object").map fun t => (.basic (basicTypeOf t), false)

def completeField (f : FieldDef) (kind : FieldKind) (array : Bool)
    (default : Option DefaultValue) : Report (Option Field) :=
  let validator := bindValidator f.validator
  if validator.any (!·.bounds.isEmpty) && !isOrdered kind then
    Report.reject f.location (.notComparable f.name)
  else
    return some {
      name := f.name, rustName := memberNameOf (f.rustName.getD f.name)
      description := f.description, kind, array
      optional := f.optional, ignore := f.ignore, default, validator
      comparisonOrder := f.comparisonOrder, docSequence := f.docSequence
      requestOnly := f.requestOnly, unstable := f.unstable }

def bindField (symbols : SymbolTable) (owner : String) (f : FieldDef) : Report (Option Field) := do
  let member := memberNameOf (f.rustName.getD f.name)
  match ← declaredKind symbols f (owner ++ Emit.typeName member) with
  | none => return none
  | some (kind, array) =>
    -- Of these faults only the first is reported.
    if f.optional && f.default.isSome then
      Report.reject f.location (.optionalWithDefault f.name)
    else if array && f.default.isSome then
      Report.reject f.location (.arrayWithDefault f.name)
    else
      match f.default with
      | none => completeField f kind array none
      | some e =>
        match ← bindDefault symbols f.location f.name e kind with
        | none => return none
        | some default => completeField f kind array (some default)

end WireSchema.Bound
