import WireSchema.Schema.Definition

namespace WireSchema.Schema

-- All commands, enums, structs and types share one space of names with the built-in types, and the
-- first definition of a name wins. A name in a field's type never resolves to a command.

def builtinLocation : Location :=
  ⟨"<builtin>", ⟨0, 0⟩⟩

def builtinType (name rustType wireType : String) : TypeDef :=
  { location := builtinLocation, name, rustType := some rustType, wireTypes := [wireType],
    imported := true }

def builtinTypes : List TypeDef :=
  [builtinType "string" "String" "string",
    builtinType "int" "i32" "int",
    builtinType "long" "i64" "long",
    builtinType "double" "f64" "double",
    builtinType "bool" "bool" "bool",
    builtinType "date" "DateTime" "date",
    builtinType "timestamp" "Timestamp" "timestamp",
    builtinType "objectid" "ObjectId" "objectid",
    builtinType "decimal" "Decimal128" "decimal",
    builtinType "object" "Document" "object",
    { builtinType "bindata_generic" "Vec<u8>" "bindata" with subtype := some "generic" },
    { builtinType "uuid" "Vec<u8>" "bindata" with subtype := some "uuid" },
    { builtinType "namespacestring" "NamespaceString" "string" with
      deserializer := some "NamespaceString::parse", serializer := some "to_string" }]

structure SymbolTable where
  commands : List CommandDef := []
  enums : List EnumDef := []
  structs : List StructDef := []
  types : List TypeDef := []
deriving Repr, Inhabited

inductive Resolved where
  | type (definition : TypeDef)
  | enum (definition : EnumDef)
  | struct (definition : StructDef)
deriving Repr, Inhabited

def Resolved.name : Resolved → String
  | type t => t.name
  | enum e => e.name
  | struct s => s.name

inductive ResolvedRef where
  | single (target : Resolved)
  | array (element : Resolved)
  | variant (alternatives : List Resolved)
deriving Repr, Inhabited

namespace SymbolTable

def kindOf? (t : SymbolTable) (name : String) : Option String :=
  if builtinTypes.any (·.name == name) then some "builtin type"
  else if t.commands.any (·.base.name == name) then some "command"
  else if t.enums.any (·.name == name) then some "enum"
  else if t.structs.any (·.name == name) then some "struct"
  else if t.types.any (·.name == name) then some "type"
  else none

def insert (t : SymbolTable) (location : Location) (name kind : String) (added : SymbolTable) :
    Report SymbolTable :=
  match t.kindOf? name with
  | some previous => do
    Report.complain location (.duplicateSymbol kind name previous)
    return t
  | none => return added

def addCommand (t : SymbolTable) (c : CommandDef) : Report SymbolTable :=
  t.insert c.base.location c.base.name "command" { t with commands := t.commands ++ [c] }

def addEnum (t : SymbolTable) (e : EnumDef) : Report SymbolTable :=
  t.insert e.location e.name "enum" { t with enums := t.enums ++ [e] }

def addStruct (t : SymbolTable) (s : StructDef) : Report SymbolTable :=
  t.insert s.location s.name "struct" { t with structs := t.structs ++ [s] }

def addType (t : SymbolTable) (d : TypeDef) : Report SymbolTable :=
  t.insert d.location d.name "type" { t with types := t.types ++ [d] }

def addImported (t : SymbolTable) (other : SymbolTable) : Report SymbolTable := do
  let t ← other.commands.foldlM
    (fun t c => t.addCommand { c with base := { c.base with imported := true } }) t
  let t ← other.enums.foldlM (fun t e => t.addEnum { e with imported := true }) t
  let t ← other.structs.foldlM (fun t s => t.addStruct { s with imported := true }) t
  other.types.foldlM (fun t d => t.addType { d with imported := true }) t

def struct? (t : SymbolTable) (name : String) : Option StructDef :=
  t.structs.find? (·.name == name)

def command? (t : SymbolTable) (name : String) : Option CommandDef :=
  t.commands.find? (·.base.name == name)

def enum? (t : SymbolTable) (name : String) : Option EnumDef :=
  t.enums.find? (·.name == name)

def type? (t : SymbolTable) (name : String) : Option TypeDef :=
  (builtinTypes ++ t.types).find? (·.name == name)

def resolve? (t : SymbolTable) (name : String) : Option Resolved :=
  ((t.type? name).map Resolved.type).or <|
    ((t.enum? name).map Resolved.enum).or ((t.struct? name).map Resolved.struct)

def lookup (t : SymbolTable) (name : String) : Except String Resolved :=
  match t.resolve? name with
  | some r => .ok r
  | none => .error name

def lookupAlternatives (t : SymbolTable) : List TypeRef → Except String (List Resolved)
  | [] => .ok []
  | .single name :: rest => do
    let r ← t.lookup name
    let more ← t.lookupAlternatives rest
    return r :: more
  | other :: _ => .error other.text

def resolveRef (t : SymbolTable) : TypeRef → Except String ResolvedRef
  | .single name => (t.lookup name).map ResolvedRef.single
  | .array element => (t.lookup element).map ResolvedRef.array
  | .variant alternatives => (t.lookupAlternatives alternatives).map ResolvedRef.variant

def resolveField (t : SymbolTable) (location : Location) (field : String) (type : TypeRef) :
    Report (Option ResolvedRef) :=
  match t.resolveRef type with
  | .ok r => return some r
  | .error name => Report.reject location (.unknownType field name)

end SymbolTable

structure Spec where
  globals : Option Globals := none
  imports : Option Imports := none
  symbols : SymbolTable := {}
  parameters : List ParameterDef := []
  options : List OptionDef := []
deriving Repr, Inhabited

end WireSchema.Schema
