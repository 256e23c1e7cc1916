import WireSchema.Bson.Decoding

namespace WireSchema.Record

inductive ParameterFault where
  | invalidValue (value name : String)
  | notFromText (name : String)
  | duplicate (name : String)
  | unknownTarget (given name : String)
  | unknown (name : String)
deriving DecidableEq, Repr

def ParameterFault.reason : ParameterFault → String
  | invalidValue value name => s!"Invalid value '{value}' for server parameter '{name}'"
  | notFromText name => s!"Server parameter '{name}' cannot be set from a string"
  | duplicate name => s!"Duplicate server parameter '{name}'"
  | unknownTarget given name => s!"Alias '{given}' refers to unknown server parameter '{name}'"
  | unknown name => s!"Unknown server parameter '{name}'"

inductive OptionFault where
  | wrongKind (name : String) (found : Bson.Kind)
  | conflictingName (name : String)
  | unrecognized (name : String)
  | requires (name required : String)
  | notAllowedWith (name other : String)
deriving DecidableEq, Repr

def OptionFault.reason : OptionFault → String
  | wrongKind name found => s!"Option '{name}' has the wrong type '{found.name}'"
  | conflictingName name => s!"Attempted to register option with conflicting name '{name}'"
  | unrecognized name => s!"Unrecognized option: {name}"
  | requires name required => s!"Option '{name}' requires option '{required}'"
  | notAllowedWith name other => s!"Option '{name}' is not allowed with option '{other}'"

-- Field names in faults are dotted paths from the outermost record.
inductive Fault where
  | duplicateField (field : String)
  | missingField (field : String)
  | unknownField (field : String)
  | wrongKind (field : String) (expected : List Bson.Kind) (found : Bson.Kind)
  | wrongSubtype (field : String) (expected found : UInt8)
  | arrayOrder (field : String) (actual expected : Nat)
  | arrayKey (field value : String)
  | enumValue (field value : String)
  | comparison (field operator value limit : String)
  | invalidNamespace (text : String)
  | validation (text : String)
  | parameter (cause : ParameterFault)
  | option (cause : OptionFault)
  | undecodable (cause : Bson.DecodeError)
deriving DecidableEq, Repr

def Fault.message : Fault → String
  | duplicateField field => s!"BSON field '{field}' is a duplicate field"
  | missingField field => s!"BSON field '{field}' is missing but a required field"
  | unknownField field => s!"BSON field '{field}' is an unknown field"
  | wrongKind field expected found =>
    let kinds := ", ".intercalate (expected.map (·.name))
    s!"BSON field '{field}' is the wrong type '{found.name}', expected type '{kinds}'"
  | wrongSubtype field expected found =>
    s!"BSON field '{field}' has bindata subtype {found}, expected subtype {expected}"
  | arrayOrder field actual expected =>
    s!"BSON array field '{field}' has a non-sequential value '{actual}' for an array field name, expected value '{expected}'"
  | arrayKey field value =>
    s!"BSON array field '{field}' has an invalid value '{value}' for an array field name"
  | enumValue field value => s!"BSON field '{field}' has an invalid enumeration value '{value}'"
  | comparison field operator value limit =>
    s!"BSON field '{field}' value must be {operator} {limit}, actual value '{value}'"
  | invalidNamespace text => s!"Invalid namespace specified '{text}'"
  | validation text => text
  | parameter cause => "Server parameter error: " ++ cause.reason
  | option cause => "Startup option error: " ++ cause.reason
  | undecodable cause => "Document decode error: " ++ cause.message

def Fault.field? : Fault → Option String
  | duplicateField field | missingField field | unknownField field => some field
  | wrongKind field _ _ | wrongSubtype field _ _ | arrayOrder field _ _ => some field
  | arrayKey field _ | enumValue field _ | comparison field _ _ _ => some field
  | invalidNamespace _ | validation _ | parameter _ | option _ | undecodable _ => none

end WireSchema.Record
