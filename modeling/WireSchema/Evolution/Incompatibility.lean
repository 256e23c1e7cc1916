import WireSchema.Schema.Definition
import WireSchema.Text.Json

namespace WireSchema.Evolution

inductive Direction where
  | parameter
  | commandType
  | reply
deriving DecidableEq, Repr, Inhabited

def Direction.pick {α : Type} (d : Direction) (parameter commandType reply : α) : α :=
  match d with
  | .parameter => parameter
  | .commandType => commandType
  | .reply => reply

inductive FieldChange where
  | removed (field owner : String)
  | added (field owner : String)
  | unstable (field : String)
  | stableRequired (field : String)
  | required (field : String)
  | optional (field : String)
  | gainedValidator (field : String)
  | changedValidator (field : String)
deriving DecidableEq, Repr

-- Only requests distinguish what became required, and only replies what became optional.
def FieldChange.number (d : Direction) : FieldChange → Nat
  | removed _ _ => d.pick 4 20 37
  | added _ _ => d.pick 5 21 5
  | unstable _ => d.pick 6 22 38
  | stableRequired _ => d.pick 7 23 7
  | required _ => d.pick 8 24 8
  | optional _ => 39
  | gainedValidator _ => d.pick 9 25 40
  | changedValidator _ => d.pick 10 26 41

def FieldChange.message (d : Direction) : FieldChange → String
  | removed field owner =>
    let request := s!"'{field}' was removed from '{owner}'"
    d.pick request request s!"reply field '{field}' of '{owner}' was removed"
  | added field owner => s!"required field '{field}' was added to '{owner}'"
  | unstable field => s!"'{field}' is no longer stable"
  | stableRequired field => s!"'{field}' became stable and is required with no default"
  | required field => s!"'{field}' is no longer optional"
  | optional field => s!"'{field}' became optional"
  | gainedValidator field => s!"'{field}' gained a validator"
  | changedValidator field => s!"'{field}' changed its validator"

inductive TypeChange where
  | wireTypes (field : String) (old new : List String)
  | enumValues (field : String) (old new : List String)
  | arrayOrSingle (field : String)
  | toAny (field type : String)
  | fromAny (field type : String)
  | staysAny (field : String)
  | rustType (field old new : String)
  | serializer (field : String)
  | toEnumOrStruct (field type : String)
  | fromEnum (field type : String)
  | fromStruct (field type : String)
  | variantOrSingle (field : String)
  | noCounterpart (field alternative : String)
  | variantWithout (field type : String)
  | notInVariant (field type : String)
deriving DecidableEq, Repr

def TypeChange.number (d : Direction) : TypeChange → Nat
  | wireTypes _ _ _ | enumValues _ _ _ | arrayOrSingle _ => d.pick 11 27 42
  | toAny _ _ => d.pick 12 28 43
  | fromAny _ _ | staysAny _ => d.pick 13 29 44
  | rustType _ _ _ => d.pick 14 30 45
  | serializer _ => 46
  | toEnumOrStruct _ _ => d.pick 15 31 47
  | fromEnum _ _ => d.pick 16 32 48
  | fromStruct _ _ => d.pick 17 33 49
  | variantOrSingle _ => d.pick 18 34 50
  | noCounterpart _ _ | variantWithout _ _ | notInVariant _ _ => d.pick 19 35 51

def listed (items : List String) : String :=
  "[" ++ ", ".intercalate items ++ "]"

def TypeChange.message : TypeChange → String
  | wireTypes field old new =>
    s!"'{field}' bson types changed from " ++ listed old ++ " to " ++ listed new
  | enumValues field old new =>
    s!"'{field}' enum values changed from " ++ listed old ++ " to " ++ listed new
  | arrayOrSingle field => s!"'{field}' changed between an array and a single value"
  | toAny field type => s!"'{field}' changed to bson type 'any' in '{type}'"
  | fromAny field type => s!"'{field}' had bson type 'any' in '{type}'"
  | staysAny field => s!"'{field}' has bson type 'any' and is not in the allow list"
  | rustType field old new => s!"'{field}' changed rust_type from '{old}' to '{new}'"
  | serializer field => s!"'{field}' changed its serializer"
  | toEnumOrStruct field type => s!"'{field}' changed to the enum or struct '{type}'"
  | fromEnum field type => s!"'{field}' was an enum and is now '{type}'"
  | fromStruct field type => s!"'{field}' was a struct and is now '{type}'"
  | variantOrSingle field => s!"'{field}' changed between a variant and a single type"
  | noCounterpart field alternative =>
    s!"'{field}' variant alternative '{alternative}' has no counterpart"
  | variantWithout field type => s!"'{field}' became a variant without '{type}'"
  | notInVariant field type => s!"'{field}' narrowed to '{type}', which the variant did not allow"

inductive Cause where
  | invalidVersion (command version : String)
  | duplicateCommand (command : String)
  | removedCommand (command : String)
  | field (d : Direction) (change : FieldChange)
  | type (d : Direction) (change : TypeChange)
  | namespaceRule (old new : Schema.NamespaceRule)
  | unresolvedField (field type : String)
  | noErrorReply (root : String)
deriving DecidableEq, Repr

namespace Cause

def number : Cause → Nat
  | invalidVersion _ _ => 1
  | duplicateCommand _ => 2
  | removedCommand _ => 3
  | field d change => change.number d
  | type d change => change.number d
  | namespaceRule _ _ => 36
  | unresolvedField _ _ => 52
  | noErrorReply _ => 53

def code (c : Cause) : String :=
  let digits := toString c.number
  "ID" ++ String.ofList (List.replicate (4 - digits.length) '0') ++ digits

def message : Cause → String
  | invalidVersion command version => s!"'{command}' has unsupported api_version '{version}'"
  | duplicateCommand command => s!"'{command}' is defined more than once"
  | removedCommand command => s!"'{command}' was removed"
  | field d change => change.message d
  | type _ change => change.message
  | namespaceRule old new => s!"namespace changed from '{old.name}' to '{new.name}'"
  | unresolvedField name unknown => s!"field '{name}' has unknown type '{unknown}'"
  | noErrorReply root => s!"no 'ErrorReply' struct under {root}"

end Cause

structure Incompatibility where
  cause : Cause
  command : String
  file : String
deriving DecidableEq, Repr

namespace Incompatibility

def text (i : Incompatibility) : String :=
  s!"{i.file}: {i.command}: {i.cause.code}: {i.cause.message}"

def toJson (i : Incompatibility) : Json :=
  .record [("error_id", .text i.cause.code), ("command_name", .text i.command),
    ("msg", .text i.cause.message), ("file", .text i.file)]

end Incompatibility

def reportText (found : List Incompatibility) : String :=
  String.join (found.map (·.text ++ "\n")) ++ s!"Found {found.length} compatibility errors\n"

def reportJson (found : List Incompatibility) : Json :=
  .record [("errors", .list (found.map (·.toJson)))]

end WireSchema.Evolution
