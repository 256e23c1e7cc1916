import WireSchema.Emit.Enumeration
import WireSchema.Emit.Flavour
import WireSchema.Emit.Tracking

namespace WireSchema.Emit

open WireSchema.Bound (Field Struct Variant)

-- Each type is declared once. The variants of inlined fields are declared where the fields come
-- from.
def declaredVariants (k : Flavour) (s : Struct) : List Variant :=
  let fields := k.commandField?.toList ++ s.fields.filter (·.owner.isNone)
  let variants := fields.filterMap fun f =>
    match f.kind with
    | .variant v => some v
    | _ => none
  variants.foldl
    (fun kept v => if kept.any (·.rustName == v.rustName) then kept else kept ++ [v]) []

def initialValue (f : Field) : String :=
  if f.optional then "None"
  else if f.array then "Vec::new()"
  else
    match Tracking.defaultValue? f, f.kind with
    | some value, _ => value
    | none, .basic t => t.default.getD "Default::default()"
    | none, _ => "Default::default()"

def keepFirstOfName : List (String × String) → List (String × String)
  | a :: b :: rest =>
    if a.1 == b.1 then keepFirstOfName (a :: rest) else a :: keepFirstOfName (b :: rest)
  | entries => entries
termination_by entries => entries.length

def wireNames (s : Struct) : List (String × String) :=
  let fields := (wireFields s).map fun f => (fieldNameConstant f.rustName, f.name)
  let command := s.command.toList.map fun c => ("COMMAND_NAME", c.commandName)
  -- Equal names are sorted by their values, so the least value stays.
  keepFirstOfName <| (fields ++ command).mergeSort fun a b =>
    decide (a.1 < b.1) || (a.1 == b.1 && !decide (b.2 < a.2))

def constants (s : Struct) : List Code :=
  let names := (wireNames s).map fun (name, value) =>
    let literal := textLiteral value
    Code.line s!"pub const {name}: &'static str = {literal};"
  let defaults := s.fields.filterMap fun f =>
    match f.default with
    | some d =>
      let name := defaultConstant f.rustName
      let stored := f.elementStorage.storageType
      if d.constant then some (Code.line s!"pub const {name}: {stored} = {d.code};") else none
    | none => none
  names ++ [.gap] ++ defaults ++ [.gap]

def constructorHead (name : String) (arguments : List (String × String)) (result : String) :
    String :=
  "pub " ++ Flavour.signature name (arguments.map fun (a, t) => s!"{a}: {t}") (some result)

def storedFields (s : Struct) : List Field :=
  s.fields.filter (·.hasStorage)

def flaggedFields (s : Struct) : List Field :=
  s.fields.filter (·.hasFlag)

def constructor (k : Flavour) (s : Struct) : List Code :=
  let fromNamespace := k.namespaceMember?.isSome
  let database := k.namespaceMember?.toList.map fun m =>
    Code.line s!"let db_name = {m.name}.db().to_owned();"
  let given := k.constructorArguments.map fun (name, _) => Code.line s!"{name},"
  let members := (storedFields s).map fun f =>
    if fromNamespace && f.requestOnly then Code.line "db_name,"
    else
      let value := initialValue f
      Code.line s!"{f.rustName}: {value},"
  let flags := (flaggedFields s).map fun f =>
    let value := if fromNamespace && f.requestOnly then "true" else "false"
    Code.line s!"has_{f.rustName}: {value},"
  [.braces (constructorHead "new" k.constructorArguments s.rustName)
    (database ++ [.braces s.rustName (given ++ members ++ flags)]),
   .gap]

def requiredConstructor (k : Flavour) (s : Struct) : List Code :=
  let required := (flaggedFields s).filter (!·.requestOnly)
  if required.isEmpty then []
  else
    let arguments :=
      k.constructorArguments ++ required.map fun f => (f.rustName, f.storage.storageType)
    let passed := ", ".intercalate (k.constructorArguments.map (·.1))
    let sets := required.flatMap fun f =>
      [Code.line s!"object.{f.rustName} = {f.rustName};",
       Code.line s!"object.has_{f.rustName} = true;"]
    [.line "/// Builds the struct with every required field set.",
     .braces (constructorHead "with_required" arguments s.rustName)
       ([.line s!"let mut object = {s.rustName}::new({passed});"] ++ sets ++ [.line "object"]),
     .gap]

def getter (name result body : String) : List Code :=
  [.braces s!"pub fn {name}(&self) -> {result}" [.line body], .gap]

def getters (immutable : Bool) (f : Field) : List Code :=
  documentation f.description ++
  match f.owner with
  | some member => getter f.rustName f.storage.getterType s!"self.{member}.{f.rustName}()"
  | none =>
    let shared := getter f.rustName f.storage.getterType (f.storage.getterBody f.rustName)
    let unique : List Code :=
      match immutable, f.storage.mutGetterType? with
      | false, some mutType =>
        let body := if f.optional then s!"self.{f.rustName}.as_mut()" else s!"&mut self.{f.rustName}"
        [.braces s!"pub fn {f.rustName}_mut(&mut self) -> {mutType}" [.line body], .gap]
      | _, _ => []
    shared ++ unique

def setterValidation (f : Field) : List Code :=
  let call (item : String) : Code := .line s!"Self::validate_{f.rustName}(None, {item})?;"
  match f.optional, f.array with
  | false, false => [call "&value"]
  | true, false => [.braces "if let Some(value) = &value" [call "value"]]
  | false, true => [.braces "for item in &value" [call "item"]]
  | true, true =>
    [.braces "if let Some(values) = &value" [.braces "for item in values" [call "item"]]]

def setter (flagged : Bool) (f : Field) : List Code :=
  let validated := f.validator.isSome
  let result := if validated then some "Result<(), IdlError>" else none
  let head := "pub " ++
    Flavour.signature s!"set_{f.rustName}" ["&mut self", s!"value: {f.storage.setterType}"] result
  let checks := if validated then setterValidation f else []
  let flag := if flagged then [Code.line s!"self.has_{f.rustName} = true;"] else []
  let done := if validated then [Code.line "Ok(())"] else []
  [.braces head (checks ++ [.line s!"self.{f.rustName} = value;"] ++ flag ++ done), .gap]

def comparisonOperators (s : Struct) : List Code :=
  let fields := s.comparisonFields
  let terms := fields.map fun f =>
    if f.holdsDocuments then s!"self.{f.rustName}.structural_eq(&other.{f.rustName})"
    else s!"self.{f.rustName} == other.{f.rustName}"
  let equality := if fields.isEmpty then "true" else "\n    && ".intercalate terms
  let steps := fields.map fun f =>
    let ordering :=
      if f.holdsDocuments then s!"Some(self.{f.rustName}.structural_cmp(&other.{f.rustName}))"
      else s!"self.{f.rustName}.partial_cmp(&other.{f.rustName})"
    Code.braces s!"match {ordering}"
      [.line "Some(::std::cmp::Ordering::Equal) => \x7b\x7d", .line "ordering => return ordering,"]
  [.braces s!"impl PartialEq for {s.rustName}"
    [.braces "fn eq(&self, other: &Self) -> bool" [.line equality]],
   .gap,
   .braces s!"impl PartialOrd for {s.rustName}"
    [.braces "fn partial_cmp(&self, other: &Self) -> Option<::std::cmp::Ordering>"
      (steps ++ [.line "Some(::std::cmp::Ordering::Equal)"])],
   .gap]

def members (k : Flavour) (s : Struct) : List Code :=
  let given := k.constructorArguments.map fun (name, type) => Code.line s!"{name}: {type},"
  let stored := (storedFields s).map fun f => Code.line s!"{f.rustName}: {f.storage.storageType},"
  let flags := (flaggedFields s).map fun f => Code.line s!"has_{f.rustName}: bool,"
  given ++ stored ++ flags

def inherentMembers (k : Flavour) (s : Struct) : List Code :=
  let namespaceGetter := k.namespaceMember?.toList.flatMap fun m =>
    getter m.getter ("&" ++ m.rustType) ("&self." ++ m.name)
  let commandAccessors := k.commandField?.toList.flatMap fun f =>
    getters s.immutable f ++ (if s.immutable then [] else setter false f)
  let accessors := (s.fields.filter (!·.ignore)).flatMap fun f =>
    getters s.immutable f ++ (if !s.immutable && f.hasStorage then setter f.hasFlag f else [])
  constants s ++ constructor k s ++ requiredConstructor k s ++ namespaceGetter ++
    commandAccessors ++ accessors

def structDeclaration (k : Flavour) (s : Struct) : Except EmitError (List Code) := do
  let variants ← (declaredVariants k s).mapM (variantDeclaration s.comparable)
  let defaults :=
    if k.constructorArguments.isEmpty then defaultImpl s.rustName s!"{s.rustName}::new()" else []
  let comparison := if s.comparable then comparisonOperators s else []
  return variants.flatten ++ documentation s.description ++
    [.line "#[derive(Debug, Clone)]",
     .braces s!"pub struct {s.rustName}" (members k s), .gap,
     .braces s!"impl {s.rustName}" (inherentMembers k s), .gap] ++
    defaults ++ comparison

end WireSchema.Emit
