import WireSchema.Source.Node

namespace WireSchema.Schema

-- Several causes may share a code. Checking never stops at a fault: a `Report` carries a value
-- together with every diagnostic found on the way to it, in order.

structure Location where
  file : String
  position : Source.Position
deriving DecidableEq, Repr, Inhabited

def Location.text (l : Location) : String :=
  s!"{l.file}:{l.position.line}:{l.position.column}"

inductive Fault where
  | unreadable (fault : Source.SyntaxFault)
  | unknownNode (key parent : String)
  | duplicateNode (key parent : String)
  | notScalar (kind key : String)
  | notSequence (kind key : String)
  | notBlock (kind key : String)
  | missingName (key : String)
  | missingEntry (parent entry : String)
  | badBool (key value : String)
  | badInt (key value : String)
  | duplicateSymbol (kind name previous : String)
  | unknownType (field typeName : String)
  | importNotFound (file : String)
  | importFailed (file reason : String)
  | badNamespace (text : String)
  | badWireType (tag typeName : String)
  | mixedSentinel (typeName : String)
  | severalContainers (typeName tag : String)
  | missingSubtype (typeName : String)
  | badSubtype (subtype : String)
  | subtypeWithoutBinary (typeName : String)
  | sentinelWithoutCodec (typeName sentinel : String)
  | missingDeserializer (typeName storage : String)
  | badEnumType (enumName enumType : String)
  | duplicateEnumName (enumName name : String)
  | duplicateEnumValue (enumName value : String)
  | badEnumNumber (value : String)
  | emptyEnum (enumName : String)
  | badAlternative (field alternative : String)
  | chainTypeInField (field typeName : String)
  | arrayOfSentinel (field typeName sentinel : String)
  | sentinelAlternative (field typeName : String)
  | enumAlternative (field enumName : String)
  | severalStructs (field : String)
  | overlap (field previous current tag : String)
  | badEnumDefault (text field enumName : String)
  | optionalWithDefault (field : String)
  | arrayWithDefault (field : String)
  | notComparable (field : String)
  | notChainType (typeName : String)
  | strictWithChainedType (structName typeName : String)
  | notStruct (name : String)
  | chainedHasChains (name : String)
  | strictWithoutInlining (structName chained : String)
  | chainedImmutable (name : String)
  | chainedArray (chained field : String)
  | duplicateField (structName field : String) (inlined : Bool)
  | duplicateMember (structName member : String)
  | duplicateOrder (structName : String) (order : Int)
  | sequenceOfOthers (field : String)
  | sequenceOutsideCommand (field structName : String)
  | variantCompared (field : String)
  | missingCommandType (command : String)
  | needlessCommandType (command rule : String)
  | badSetAt (parameter : String) (setAt : List String)
  | storageAndHooks (parameter : String)
  | neitherStorageNorHooks (parameter : String)
  | onlyOneHook (parameter : String)
  | hooksWithStorageEntries (parameter : String)
  | expressionWithoutType (parameter : String)
  | typeWithoutVariable (parameter : String)
  | badOptionType (option optionType : String)
  | badSource (option source : String)
  | badDuplicates (option behavior : String)
  | badPositional (option text : String)
  | halfStorage (option : String)
deriving DecidableEq, Repr

namespace Fault

def code : Fault → String
  | unreadable _ => "ID0001"
  | unknownNode .. => "ID0002"
  | duplicateNode .. => "ID0003"
  | notScalar .. => "ID0004"
  | notSequence .. => "ID0005"
  | notBlock .. => "ID0006"
  | missingName _ => "ID0007"
  | missingEntry .. => "ID0007"
  | badBool .. => "ID0008"
  | badInt .. => "ID0009"
  | duplicateSymbol .. => "ID0010"
  | unknownType .. => "ID0011"
  | importNotFound _ => "ID0041"
  | importFailed .. => "ID0042"
  | badNamespace _ => "ID0026"
  | badWireType .. => "ID0013"
  | mixedSentinel _ => "ID0014"
  | severalContainers .. => "ID0014"
  | missingSubtype _ => "ID0017"
  | badSubtype _ => "ID0015"
  | subtypeWithoutBinary _ => "ID0016"
  | sentinelWithoutCodec .. => "ID0019"
  | missingDeserializer .. => "ID0018"
  | badEnumType .. => "ID0020"
  | duplicateEnumName .. => "ID0022"
  | duplicateEnumValue .. => "ID0022"
  | badEnumNumber _ => "ID0021"
  | emptyEnum _ => "ID0018"
  | badAlternative .. => "ID0034"
  | chainTypeInField .. => "ID0030"
  | arrayOfSentinel .. => "ID0040"
  | sentinelAlternative .. => "ID0034"
  | enumAlternative .. => "ID0034"
  | severalStructs _ => "ID0036"
  | overlap .. => "ID0035"
  | badEnumDefault .. => "ID0021"
  | optionalWithDefault _ => "ID0023"
  | arrayWithDefault _ => "ID0024"
  | notComparable _ => "ID0049"
  | notChainType _ => "ID0030"
  | strictWithChainedType .. => "ID0031"
  | notStruct _ => "ID0029"
  | chainedHasChains _ => "ID0029"
  | strictWithoutInlining .. => "ID0031"
  | chainedImmutable _ => "ID0032"
  | chainedArray .. => "ID0050"
  | duplicateField _ _ inlined => if inlined then "ID0033" else "ID0028"
  | duplicateMember .. => "ID0028"
  | duplicateOrder .. => "ID0025"
  | sequenceOfOthers _ => "ID0038"
  | sequenceOutsideCommand .. => "ID0039"
  | variantCompared _ => "ID0037"
  | missingCommandType _ => "ID0027"
  | needlessCommandType .. => "ID0026"
  | badSetAt .. => "ID0043"
  | storageAndHooks _ => "ID0048"
  | neitherStorageNorHooks _ => "ID0048"
  | onlyOneHook _ => "ID0048"
  | hooksWithStorageEntries _ => "ID0048"
  | expressionWithoutType _ => "ID0018"
  | typeWithoutVariable _ => "ID0018"
  | badOptionType .. => "ID0044"
  | badSource .. => "ID0045"
  | badDuplicates .. => "ID0046"
  | badPositional .. => "ID0047"
  | halfStorage _ => "ID0018"

def message : Fault → String
  | unreadable fault => fault.message
  | unknownNode key parent => s!"Unknown IDL node '{key}' for IDL type '{parent}'"
  | duplicateNode key parent => s!"Duplicate node found for '{key}' in '{parent}'"
  | notScalar kind key => s!"Illegal node type '{kind}' for '{key}', expected a scalar"
  | notSequence kind key => s!"Illegal node type '{kind}' for '{key}', expected a scalar or list"
  | notBlock kind key => s!"Illegal node type '{kind}' for '{key}', expected a block"
  | missingName key => s!"IDL node '{key}' requires a name"
  | missingEntry parent entry => s!"IDL node '{parent}' is missing required scalar '{entry}'"
  | badBool key value =>
    s!"Illegal bool value for '{key}', expected 'true' or 'false' but found '{value}'"
  | badInt key value => s!"Illegal integer value for '{key}', found '{value}'"
  | duplicateSymbol kind name previous =>
    s!"{kind} '{name}' is a duplicate symbol of an existing {previous}"
  | unknownType field typeName => s!"'{typeName}' is an unknown type for field '{field}'"
  | importNotFound file => s!"Could not resolve import '{file}', file not found"
  | importFailed file reason => s!"Could not read import '{file}': {reason}"
  | badNamespace text =>
    s!"Command namespace '{text}' is not one of ignored, concatenate_with_db, " ++
      "concatenate_with_db_or_uuid or type"
  | badWireType tag typeName => s!"'{tag}' is not a valid bson type for '{typeName}'"
  | mixedSentinel typeName => s!"'{typeName}' mixes 'any' or 'chain' with other bson types"
  | severalContainers typeName tag =>
    s!"'{typeName}' lists several bson types, but '{tag}' is not a scalar type"
  | missingSubtype typeName => s!"'{typeName}' is bindata and needs a bindata_subtype"
  | badSubtype subtype => s!"'{subtype}' is not a valid bindata subtype"
  | subtypeWithoutBinary typeName => s!"'{typeName}' has a bindata_subtype but is not bindata"
  | sentinelWithoutCodec typeName sentinel =>
    s!"'{typeName}' is an '{sentinel}' type and needs both a serializer and a deserializer"
  | missingDeserializer typeName storage =>
    s!"'{typeName}' stores '{storage}', which is not the natural type of its bson type, " ++
      "and needs a deserializer"
  | badEnumType enumName enumType =>
    s!"enum '{enumName}' has type '{enumType}'; only 'string' and 'int' are supported"
  | duplicateEnumName enumName name => s!"enum '{enumName}' declares the name '{name}' twice"
  | duplicateEnumValue enumName value => s!"enum '{enumName}' declares the value '{value}' twice"
  | badEnumNumber value => s!"'{value}' is not a valid int enum value"
  | emptyEnum enumName => s!"enum '{enumName}' has no values"
  | badAlternative field alternative =>
    s!"variant field '{field}' cannot have the alternative '{alternative}'"
  | chainTypeInField field typeName =>
    s!"field '{field}' uses the chain type '{typeName}'; declare it with chained_type instead"
  | arrayOfSentinel field typeName sentinel =>
    s!"field '{field}' is an array of '{typeName}', which has bson type '{sentinel}'"
  | sentinelAlternative field typeName =>
    s!"variant field '{field}' cannot have the 'any' or 'chain' alternative '{typeName}'"
  | enumAlternative field enumName =>
    s!"variant field '{field}' cannot have the enum alternative '{enumName}'"
  | severalStructs field => s!"variant field '{field}' has more than one struct alternative"
  | overlap field previous current tag =>
    s!"variant field '{field}' has alternatives '{previous}' and '{current}' that both accept " ++
      s!"bson type '{tag}'"
  | badEnumDefault text field enumName =>
    s!"default '{text}' of field '{field}' is not a value of enum '{enumName}'"
  | optionalWithDefault field => s!"field '{field}' is optional and cannot also have a default"
  | arrayWithDefault field => s!"array field '{field}' cannot have a default"
  | notComparable field =>
    s!"field '{field}' has a range validator but its type is not comparable"
  | notChainType typeName => s!"chained type '{typeName}' does not have bson type 'chain'"
  | strictWithChainedType structName typeName =>
    s!"struct '{structName}' is strict and cannot have the chained type '{typeName}'"
  | notStruct name => s!"chained struct '{name}' is not a struct"
  | chainedHasChains name => s!"chained struct '{name}' has chained members of its own"
  | strictWithoutInlining structName chained =>
    s!"struct '{structName}' is strict and cannot chain '{chained}' without inlining it"
  | chainedImmutable name => s!"immutable struct '{name}' cannot be chained"
  | chainedArray chained field => s!"chained struct '{chained}' has the array field '{field}'"
  | duplicateField structName field _ =>
    s!"struct '{structName}' has more than one field named '{field}'"
  | duplicateMember structName member =>
    s!"struct '{structName}' has more than one member named '{member}'"
  | duplicateOrder structName order =>
    s!"struct '{structName}' uses comparison_order {order} more than once"
  | sequenceOfOthers field =>
    s!"field '{field}' supports document sequences but is not an array of structs or objects"
  | sequenceOutsideCommand field structName =>
    s!"field '{field}' supports document sequences but '{structName}' is not a command"
  | variantCompared field =>
    s!"variant field '{field}' has an object alternative and cannot be compared"
  | missingCommandType command => s!"command '{command}' has namespace 'type' but no type"
  | needlessCommandType command rule =>
    s!"command '{command}' has namespace '{rule}' and cannot have a type"
  | badSetAt parameter setAt =>
    let joined := ", ".intercalate setAt
    s!"server parameter '{parameter}' has set_at [{joined}]; use startup, runtime, both, or cluster"
  | storageAndHooks parameter =>
    s!"server parameter '{parameter}' has both rust_varname and from_string/append_bson hooks"
  | neitherStorageNorHooks parameter =>
    s!"server parameter '{parameter}' needs either rust_varname or from_string and append_bson"
  | onlyOneHook parameter =>
    s!"server parameter '{parameter}' needs both from_string and append_bson"
  | hooksWithStorageEntries parameter =>
    s!"server parameter '{parameter}' has no storage and cannot have a default, validator or " ++
      "on_update"
  | expressionWithoutType parameter =>
    s!"server parameter '{parameter}' has an expression default and needs rust_vartype"
  | typeWithoutVariable parameter =>
    s!"server parameter '{parameter}' has rust_vartype but no rust_varname"
  | badOptionType option optionType =>
    s!"config option '{option}' has unknown arg_vartype '{optionType}'"
  | badSource option source => s!"config option '{option}' has unknown source '{source}'"
  | badDuplicates option behavior =>
    s!"config option '{option}' has duplicate_behavior '{behavior}'; use append or overwrite"
  | badPositional option text => s!"config option '{option}' has invalid positional '{text}'"
  | halfStorage option =>
    s!"config option '{option}' needs both rust_vartype and rust_varname, or neither"

end Fault

structure Diagnostic where
  fault : Fault
  location : Location
deriving DecidableEq, Repr

def Diagnostic.text (d : Diagnostic) : String :=
  s!"{d.location.text}: error: {d.fault.code}: {d.fault.message}"

def describeAll (diagnostics : List Diagnostic) : String :=
  "\n".intercalate (diagnostics.map Diagnostic.text)

structure Report (α : Type) where
  value : α
  diagnostics : List Diagnostic

namespace Report

instance : Monad Report where
  pure a := ⟨a, []⟩
  bind r f :=
    let next := f r.value
    ⟨next.value, r.diagnostics ++ next.diagnostics⟩

def complain (location : Location) (fault : Fault) : Report Unit :=
  ⟨(), [⟨fault, location⟩]⟩

def complainIf (condition : Bool) (location : Location) (fault : Fault) : Report Unit :=
  if condition then complain location fault else pure ()

def reject {α : Type} (location : Location) (fault : Fault) : Report (Option α) :=
  ⟨none, [⟨fault, location⟩]⟩

def ifClean {α : Type} (r : Report α) : Report (Option α) :=
  ⟨if r.diagnostics.isEmpty then some r.value else none, r.diagnostics⟩

def toExcept {α : Type} (r : Report α) : Except (List Diagnostic) α :=
  if r.diagnostics.isEmpty then .ok r.value else .error r.diagnostics

end Report

end WireSchema.Schema
