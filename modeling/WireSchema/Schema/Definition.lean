import WireSchema.Schema.Diagnostic

namespace WireSchema.Schema

-- A quoted text is a literal, a bare one an expression.
structure Expression where
  literal : Option String := none
  code : Option String := none
  isConstant : Bool := true
deriving DecidableEq, Repr, Inhabited

def Expression.text (e : Expression) : String :=
  (e.literal.or e.code).getD ""

structure Validator where
  location : Location
  gt : Option String := none
  lt : Option String := none
  gte : Option String := none
  lte : Option String := none
  callback : Option String := none
deriving DecidableEq, Repr, Inhabited

def Validator.bounds (v : Validator) : List (String × String) :=
  (v.gt.map (">", ·)).toList ++ (v.lt.map ("<", ·)).toList ++ (v.gte.map (">=", ·)).toList ++
    (v.lte.map ("<=", ·)).toList

def Validator.isEmpty (v : Validator) : Bool :=
  v.bounds.isEmpty && v.callback.isNone

-- Where the validators stand does not matter.
def Validator.agrees (v w : Validator) : Bool :=
  v.gt == w.gt && v.lt == w.lt && v.gte == w.gte && v.lte == w.lte && v.callback == w.callback

structure Condition where
  code : Option String := none
  constant : Option String := none
  preprocessor : Option String := none
deriving DecidableEq, Repr, Inhabited

structure OptionDefaults where
  location : Location
  sectionName : Option String := none
  source : List String := []
  initializer : Option String := none
deriving DecidableEq, Repr, Inhabited

structure Globals where
  location : Location
  rustModule : Option String := none
  uses : List String := []
  options : Option OptionDefaults := none
deriving DecidableEq, Repr, Inhabited

structure Imports where
  location : Location
  files : List String
  resolved : List String := []
  dependencies : List String := []
deriving DecidableEq, Repr, Inhabited

structure TypeDef where
  location : Location
  name : String
  description : Option String := none
  rustType : Option String := none
  wireTypes : List String := []
  subtype : Option String := none
  serializer : Option String := none
  deserializer : Option String := none
  default : Option Expression := none
  imported : Bool := false
deriving DecidableEq, Repr, Inhabited

inductive TypeRef where
  | single (name : String)
  | array (element : String)
  | variant (alternatives : List TypeRef)
deriving Repr, Inhabited

mutual

def TypeRef.text : TypeRef → String
  | .single name => name
  | .array element => "array<" ++ element ++ ">"
  | .variant alternatives => "variant<" ++ ", ".intercalate (TypeRef.texts alternatives) ++ ">"

def TypeRef.texts : List TypeRef → List String
  | [] => []
  | t :: rest => t.text :: TypeRef.texts rest

end

structure FieldDef where
  location : Location
  name : String
  rustName : Option String := none
  description : Option String := none
  type : Option TypeRef := none
  ignore : Bool := false
  optional : Bool := false
  default : Option Expression := none
  docSequence : Bool := false
  comparisonOrder : Int := -1
  validator : Option Validator := none
  unstable : Bool := false
  requestOnly : Bool := false
deriving Repr, Inhabited

structure Chained where
  location : Location
  name : String
  rustName : String
deriving DecidableEq, Repr, Inhabited

structure StructDef where
  location : Location
  name : String
  rustName : Option String := none
  description : Option String := none
  strict : Bool := true
  immutable : Bool := false
  inlineChained : Bool := true
  comparable : Bool := false
  chainedTypes : List Chained := []
  chainedStructs : List Chained := []
  fields : List FieldDef := []
  imported : Bool := false
deriving Repr, Inhabited

inductive NamespaceRule where
  | ignored
  | collection
  | collectionOrUuid
  | typed
deriving DecidableEq, Repr, Inhabited

namespace NamespaceRule

def name : NamespaceRule → String
  | ignored => "ignored"
  | collection => "concatenate_with_db"
  | collectionOrUuid => "concatenate_with_db_or_uuid"
  | typed => "type"

def ofName? (text : String) : Option NamespaceRule :=
  [ignored, collection, collectionOrUuid, typed].find? (·.name == text)

end NamespaceRule

structure CommandDef where
  base : StructDef
  commandName : String
  namespaceRule : NamespaceRule := .ignored
  commandType : Option TypeRef := none
  apiVersion : String := ""
  replyType : Option String := none
deriving Repr, Inhabited

structure EnumValue where
  location : Location
  name : String
  value : String
deriving DecidableEq, Repr, Inhabited

structure EnumDef where
  location : Location
  name : String
  rustName : Option String := none
  description : Option String := none
  type : String := ""
  values : List EnumValue := []
  imported : Bool := false
deriving DecidableEq, Repr, Inhabited

structure ParameterDef where
  location : Location
  name : String
  description : Option String := none
  setAt : List String := []
  rustType : Option String := none
  rustVariable : Option String := none
  condition : Option Condition := none
  deprecatedNames : List String := []
  redact : Bool := false
  testOnly : Bool := false
  default : Option Expression := none
  validator : Option Validator := none
  onUpdate : Option String := none
  fromString : Option String := none
  appendBson : Option String := none
deriving DecidableEq, Repr, Inhabited

structure OptionDef where
  location : Location
  name : String
  shortName : Option String := none
  singleName : Option String := none
  deprecatedNames : List String := []
  deprecatedShortNames : List String := []
  description : Option String := none
  sectionName : Option String := none
  argType : Option String := none
  rustType : Option String := none
  rustVariable : Option String := none
  condition : Option Condition := none
  conflicts : List String := []
  requires : List String := []
  hidden : Bool := false
  redact : Bool := false
  default : Option Expression := none
  implicit : Option Expression := none
  source : List String := []
  duplicates : Option String := none
  positional : Option String := none
  validator : Option Validator := none
deriving DecidableEq, Repr, Inhabited

end WireSchema.Schema
