import WireSchema.Bound.Model
import WireSchema.Emit.Name
import WireSchema.Emit.Writer

namespace WireSchema.Emit

open WireSchema.Bound (Field Struct)

-- A strict struct knows all its fields, so it keeps one bit for each. A lenient struct has to
-- notice a repeated unknown field as well, so it keeps the set of all names.

def wireFields (s : Struct) : List Field :=
  s.fields.filter (!·.chained)

def wireNameConstant (f : Field) : String :=
  "Self::" ++ fieldNameConstant f.rustName

inductive Tracking where
  | names
  | bits

def Tracking.of (s : Struct) : Tracking :=
  if s.strict then .bits else .names

namespace Tracking

def bitConstant (f : Field) : String :=
  constantName f.rustName ++ "_BIT"

def isActive (t : Tracking) (fields : List Field) : Bool :=
  match t with
  | names => true
  | bits => !fields.isEmpty

def declaration (t : Tracking) (fields : List Field) : List Code :=
  match t with
  | names =>
    [.line "let mut used_fields: ::std::collections::BTreeSet<&str> = ::std::collections::BTreeSet::new();",
     .gap]
  | bits =>
    if fields.isEmpty then []
    else
      [.line s!"let mut used_fields = [false; {fields.length}];"] ++
      (fields.zipIdx.map fun (f, bit) =>
        let name := bitConstant f
        Code.line s!"const {name}: usize = {bit};") ++
      [.gap]

def duplicate (name : String) : Code :=
  .line s!"return Err(ctxt.duplicate_field({name}));"

def meetName (t : Tracking) (name : String) : List Code :=
  match t with
  | names =>
    [.line s!"if !used_fields.insert({name}) \x7b", .indented [duplicate name], .line "\x7d", .gap]
  | bits => []

def meetField (t : Tracking) (f : Field) (name : String) : List Code :=
  match t with
  | names => []
  | bits =>
    let bit := bitConstant f
    [.line s!"if used_fields[{bit}] \x7b", .indented [duplicate name], .line "\x7d",
     .line s!"used_fields[{bit}] = true;", .gap]

def defaultValue? (f : Field) : Option String :=
  f.default.map fun d => if d.constant then "Self::" ++ defaultConstant f.rustName else d.code

def defaultAssignment? (f : Field) : Option String :=
  (defaultValue? f).map fun value =>
    match f.owner with
    | some member =>
      let fallible := if f.validator.isSome then "?" else ""
      s!"self.{member}.set_{f.rustName}({value}){fallible};"
    | none => s!"self.{f.rustName} = {value};"

def absent (f : Field) : Code :=
  match defaultAssignment? f with
  | some assignment => .line assignment
  | none =>
    let name := wireNameConstant f
    .line s!"return Err(ctxt.missing_field({name}));"

def mayBeAbsent (f : Field) : Bool :=
  f.optional || f.ignore || f.chained

def completion (t : Tracking) (fields : List Field) : List Code :=
  let checked := fields.filter (!mayBeAbsent ·)
  if checked.isEmpty then []
  else
    match t with
    | names =>
      checked.flatMap (fun f =>
        let name := wireNameConstant f
        [.line s!"if !used_fields.contains({name}) \x7b", .indented [absent f], .line "\x7d"]) ++
      [.gap]
    | bits =>
      [.line "if !used_fields.iter().all(|used| *used) \x7b",
       .indented (checked.flatMap fun f =>
         let bit := bitConstant f
         [.line s!"if !used_fields[{bit}] \x7b", .indented [absent f], .line "\x7d"]),
       .line "\x7d",
       .gap]

end Tracking

end WireSchema.Emit
