import WireSchema.Emit.Storage
import WireSchema.Schema.Definition
import WireSchema.Schema.WireType
import WireSchema.Settings.Kind

namespace WireSchema.Bound

-- Every type reference is resolved here, every name is the one that generated code uses, and every
-- default is an expression of that code.

inductive EnumType where
  | string
  | int
deriving DecidableEq, Repr, Inhabited

structure EnumValue where
  name : String
  rustName : String
  value : String
deriving DecidableEq, Repr, Inhabited

structure Enum where
  name : String
  rustName : String
  description : Option String
  type : EnumType
  values : List EnumValue
deriving DecidableEq, Repr, Inhabited

structure Validator where
  gt : Option String
  lt : Option String
  gte : Option String
  lte : Option String
  callback : Option String
deriving DecidableEq, Repr, Inhabited

def Validator.bounds (v : Validator) : List (String × String) :=
  (v.gt.map (">", ·)).toList ++ (v.lt.map ("<", ·)).toList ++ (v.gte.map (">=", ·)).toList ++
    (v.lte.map ("<=", ·)).toList

structure BasicType where
  name : String
  rustType : String
  wireTypes : List String
  subtype : Option String
  serializer : Option String
  deserializer : Option String
  default : Option String
deriving DecidableEq, Repr, Inhabited

namespace BasicType

def isAny (t : BasicType) : Bool :=
  t.wireTypes.contains Schema.WireType.any

def isChain (t : BasicType) : Bool :=
  t.wireTypes.contains Schema.WireType.chain

def singleWireType? (t : BasicType) : Option String :=
  match t.wireTypes with
  | [single] => if t.isAny || t.isChain then none else some single
  | _ => none

def isDocument (t : BasicType) : Bool :=
  Text.trim t.rustType == "Document"

end BasicType

structure EnumRef where
  name : String
  rustName : String
  type : EnumType
deriving DecidableEq, Repr, Inhabited

structure StructRef where
  name : String
  rustName : String
deriving DecidableEq, Repr, Inhabited

inductive AlternativeKind where
  | basic (type : BasicType)
  | struct (target : StructRef)
deriving DecidableEq, Repr, Inhabited

structure Alternative where
  rustName : String
  kind : AlternativeKind
deriving DecidableEq, Repr, Inhabited

structure Variant where
  rustName : String
  alternatives : List Alternative
deriving DecidableEq, Repr, Inhabited

inductive FieldKind where
  | basic (type : BasicType)
  | enum (target : EnumRef)
  | struct (target : StructRef)
  | variant (choice : Variant)
deriving DecidableEq, Repr, Inhabited

-- A constant default is declared once, others are built in place.
structure DefaultValue where
  code : String
  constant : Bool
deriving DecidableEq, Repr, Inhabited

structure Field where
  name : String
  rustName : String
  description : Option String := none
  kind : FieldKind
  array : Bool := false
  optional : Bool := false
  ignore : Bool := false
  chained : Bool := false
  -- For a field inlined from a chained struct, the member that owns it.
  owner : Option String := none
  default : Option DefaultValue := none
  validator : Option Validator := none
  comparisonOrder : Int := -1
  docSequence : Bool := false
  requestOnly : Bool := false
  unstable : Bool := false
deriving DecidableEq, Repr, Inhabited

namespace Field

def isRequired (f : Field) : Bool :=
  !f.optional && !f.ignore && !f.chained && f.default.isNone

def hasFlag (f : Field) : Bool :=
  f.isRequired && f.owner.isNone

def hasStorage (f : Field) : Bool :=
  !f.ignore && f.owner.isNone

def isStruct (f : Field) : Bool :=
  match f.kind with
  | .struct _ => true
  | _ => false

def baseType (f : Field) : String :=
  match f.kind with
  | .basic t => t.rustType
  | .enum e => e.rustName
  | .struct s => s.rustName
  | .variant v => v.rustName

def elementStorage (f : Field) : Emit.Storage :=
  match f.kind with
  | .enum e => .copied e.rustName
  | .basic t => .ofType t.rustType
  | .struct s => .lent s.rustName
  | .variant v => .lent v.rustName

def storage (f : Field) : Emit.Storage :=
  let s := f.elementStorage
  let s := if f.array then .array s else s
  if f.optional then .optional s else s

def holdsDocuments (f : Field) : Bool :=
  match f.kind with
  | .basic t => t.isDocument
  | _ => false

end Field

structure Command where
  commandName : String
  namespaceRule : Schema.NamespaceRule
  commandField : Option Field
  apiVersion : String
  replyType : Option String
deriving DecidableEq, Repr, Inhabited

structure Struct where
  name : String
  rustName : String
  description : Option String
  strict : Bool
  immutable : Bool
  inlineChained : Bool
  comparable : Bool
  fields : List Field
  command : Option Command
deriving DecidableEq, Repr, Inhabited

namespace Struct

def isCommand (s : Struct) : Bool :=
  s.command.isSome

-- The fields that comparison looks at, in its order: those with an order if any field has one, else
-- all stored fields as declared.
def comparisonFields (s : Struct) : List Field :=
  let stored := s.fields.filter (·.hasStorage)
  if s.fields.all (·.comparisonOrder < 0) then stored
  else
    (stored.filter (0 ≤ ·.comparisonOrder)).mergeSort fun f g =>
      decide (f.comparisonOrder ≤ g.comparisonOrder)

def docSequenceFields (s : Struct) : List Field :=
  s.fields.filter (·.docSequence)

end Struct

structure Globals where
  rustModule : Option String := none
  uses : List String := []
  initializer : Option String := none
deriving DecidableEq, Repr, Inhabited

structure Parameter where
  name : String
  description : Option String
  setAt : Settings.SetAt
  rustType : Option String
  rustVariable : Option String
  condition : Option Schema.Condition
  deprecatedNames : List String
  redact : Bool
  testOnly : Bool
  default : Option Schema.Expression
  validator : Option Validator
  onUpdate : Option String
  fromString : Option String
  appendBson : Option String
deriving DecidableEq, Repr, Inhabited

structure OptionEntry where
  name : String
  singleName : String
  deprecatedNames : List String
  deprecatedShortNames : List String
  description : String
  sectionName : Option String
  type : Settings.OptionType
  rustType : Option String
  rustVariable : Option String
  condition : Option Schema.Condition
  conflicts : List String
  requires : List String
  hidden : Bool
  redact : Bool
  default : Option Schema.Expression
  implicit : Option Schema.Expression
  sources : List String
  composing : Bool
  positional : Option (Int × Int)
  validator : Option Validator
deriving DecidableEq, Repr, Inhabited

structure Idl where
  globals : Globals := {}
  enums : List Enum := []
  structs : List Struct := []
  parameters : List Parameter := []
  options : List OptionEntry := []
deriving DecidableEq, Repr, Inhabited

end WireSchema.Bound
