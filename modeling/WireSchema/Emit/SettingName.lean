import WireSchema.Settings.Kind

namespace WireSchema.Emit

def setAtConstant (s : Settings.SetAt) : String :=
  "ServerParameterType::" ++ s.name

def optionTypeConstant (t : Settings.OptionType) : String :=
  "OptionType::" ++ t.name

def optionConstructor? : Settings.OptionType → Option String
  | .switch | .bool => some "Bson::Boolean"
  | .int | .unsigned => some "Bson::Int32"
  | .long | .unsignedLong => some "Bson::Int64"
  | .double => some "Bson::Double"
  | .string | .stringVector | .stringMap => none

def optionAccessor : Settings.OptionType → String
  | .switch | .bool => "as_bool()"
  | .int => "as_i32()"
  | .unsigned => "as_i32() as u32"
  | .long => "as_i64()"
  | .unsignedLong => "as_i64() as u64"
  | .double => "as_f64()"
  | .string => "as_str().to_owned()"
  | .stringVector =>
    "as_array().iter().map(|(_, item)| item.as_str().to_owned()).collect::<Vec<String>>()"
  | .stringMap => "as_document().clone()"

end WireSchema.Emit
