import WireSchema.Bson.Kind

namespace WireSchema.Settings

inductive SetAt where
  | startupOnly
  | runtimeOnly
  | startupAndRuntime
  | clusterWide
deriving DecidableEq, Repr, Inhabited

namespace SetAt

def name : SetAt → String
  | startupOnly => "StartupOnly"
  | runtimeOnly => "RuntimeOnly"
  | startupAndRuntime => "StartupAndRuntime"
  | clusterWide => "ClusterWide"

def atStartup : SetAt → Bool
  | startupOnly | startupAndRuntime => true
  | runtimeOnly | clusterWide => false

def atRuntime : SetAt → Bool
  | startupOnly => false
  | runtimeOnly | startupAndRuntime | clusterWide => true

end SetAt

inductive OptionType where
  | switch
  | bool
  | int
  | long
  | unsigned
  | unsignedLong
  | double
  | string
  | stringVector
  | stringMap
deriving DecidableEq, Repr, Inhabited

namespace OptionType

def all : List OptionType :=
  [switch, bool, int, long, unsigned, unsignedLong, double, string, stringVector, stringMap]

def name : OptionType → String
  | switch => "Switch"
  | bool => "Bool"
  | int => "Int"
  | long => "Long"
  | unsigned => "Unsigned"
  | unsignedLong => "UnsignedLongLong"
  | double => "Double"
  | string => "String"
  | stringVector => "StringVector"
  | stringMap => "StringMap"

def ofName? (text : String) : Option OptionType :=
  all.find? (·.name == text)

def kind : OptionType → Bson.Kind
  | switch | bool => .bool
  | int | unsigned => .int32
  | long | unsignedLong => .int64
  | double => .double
  | string => .string
  | stringVector => .array
  | stringMap => .object

end OptionType

end WireSchema.Settings
