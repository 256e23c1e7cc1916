import WireSchema.Bson.Bytes
import WireSchema.Bson.Value

namespace WireSchema.Bson

def timestampBits (time increment : UInt32) : UInt64 :=
  time.toUInt64 * 0x100000000 + increment.toUInt64

def framed (elements : List UInt8) : List UInt8 :=
  lengthBytes (elements.length + 5) ++ elements ++ [0]

mutual

def Value.encode : Value → List UInt8
  | .double x => uint64Bytes x.bits
  | .string s => stringBytes s
  | .document d => framed (encodeElements d)
  | .array d => framed (encodeElements d)
  | .binary s bytes => lengthBytes bytes.length ++ s.toByte :: bytes
  | .undefined => []
  | .objectId id => id.val
  | .bool b => [boolByte b]
  | .date t => int64Bytes t
  | .null => []
  | .regex pattern options => cstringBytes pattern ++ cstringBytes options
  | .int32 n => int32Bytes n
  | .timestamp t i => uint64Bytes (timestampBits t i)
  | .int64 n => int64Bytes n
  | .decimal128 d => d.val

def encodeElements : List (String × Value) → List UInt8
  | [] => []
  | (name, v) :: rest => v.kind.tag :: cstringBytes name ++ v.encode ++ encodeElements rest

end

def Document.encode (d : Document) : List UInt8 :=
  framed (encodeElements d)

end WireSchema.Bson
