namespace WireSchema.Bson

inductive Kind where
  | double
  | string
  | object
  | array
  | binData
  | undefined
  | objectId
  | bool
  | date
  | null
  | regex
  | int32
  | timestamp
  | int64
  | decimal128
deriving DecidableEq, Repr, Inhabited

namespace Kind

def all : List Kind :=
  [double, string, object, array, binData, undefined, objectId, bool, date, null, regex, int32,
    timestamp, int64, decimal128]

def tag : Kind → UInt8
  | double => 0x01
  | string => 0x02
  | object => 0x03
  | array => 0x04
  | binData => 0x05
  | undefined => 0x06
  | objectId => 0x07
  | bool => 0x08
  | date => 0x09
  | null => 0x0a
  | regex => 0x0b
  | int32 => 0x10
  | timestamp => 0x11
  | int64 => 0x12
  | decimal128 => 0x13

def name : Kind → String
  | double => "double"
  | string => "string"
  | object => "object"
  | array => "array"
  | binData => "bindata"
  | undefined => "undefined"
  | objectId => "objectid"
  | bool => "bool"
  | date => "date"
  | null => "null"
  | regex => "regex"
  | int32 => "int"
  | timestamp => "timestamp"
  | int64 => "long"
  | decimal128 => "decimal"

def constant : Kind → String
  | double => "Double"
  | string => "String"
  | object => "Object"
  | array => "Array"
  | binData => "BinData"
  | undefined => "Undefined"
  | objectId => "ObjectId"
  | bool => "Bool"
  | date => "Date"
  | null => "Null"
  | regex => "Regex"
  | int32 => "Int32"
  | timestamp => "Timestamp"
  | int64 => "Int64"
  | decimal128 => "Decimal128"

def ofTag? (tag : UInt8) : Option Kind :=
  all.find? (·.tag == tag)

def ofName? (name : String) : Option Kind :=
  all.find? (·.name == name)

theorem ofTag?_tag (k : Kind) : ofTag? k.tag = some k := by
  cases k <;> rfl

end Kind

-- A user-defined subtype is canonical from seven on.
inductive Subtype where
  | generic
  | function
  | binaryOld
  | uuidOld
  | uuid
  | md5
  | encrypt
  | userDefined (byte : UInt8)
deriving DecidableEq, Repr, Inhabited

namespace Subtype

def toByte : Subtype → UInt8
  | generic => 0
  | function => 1
  | binaryOld => 2
  | uuidOld => 3
  | uuid => 4
  | md5 => 5
  | encrypt => 6
  | userDefined byte => byte

def ofByte (byte : UInt8) : Subtype :=
  if byte = 0 then generic
  else if byte = 1 then function
  else if byte = 2 then binaryOld
  else if byte = 3 then uuidOld
  else if byte = 4 then uuid
  else if byte = 5 then md5
  else if byte = 6 then encrypt
  else userDefined byte

def ofName? (name : String) : Option Subtype :=
  match name with
  | "generic" => some generic
  | "function" => some function
  | "uuid" => some uuid
  | "md5" => some md5
  | "encrypt" => some encrypt
  | _ => none

def constant : Subtype → String
  | generic => "Generic"
  | function => "Function"
  | binaryOld => "BinaryOld"
  | uuidOld => "UuidOld"
  | uuid => "Uuid"
  | md5 => "Md5"
  | encrypt => "Encrypt"
  | userDefined byte => s!"UserDefined({byte.toNat})"

end Subtype

end WireSchema.Bson
