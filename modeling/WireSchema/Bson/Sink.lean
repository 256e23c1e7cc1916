import WireSchema.Bson.Bytes
import WireSchema.Number.Double

namespace WireSchema.Bson

structure Sink where
  bytes : List UInt8

namespace Sink

def empty : Sink := ⟨[]⟩

def size (s : Sink) : Nat :=
  s.bytes.length

def write (s : Sink) (bytes : List UInt8) : Sink :=
  ⟨s.bytes ++ bytes⟩

def writeBool (s : Sink) (b : Bool) : Sink :=
  s.write [boolByte b]

def writeByte (s : Sink) (b : UInt8) : Sink :=
  s.write [b]

def writeInt32 (s : Sink) (n : Int32) : Sink :=
  s.write (int32Bytes n)

def writeInt64 (s : Sink) (n : Int64) : Sink :=
  s.write (int64Bytes n)

def writeUInt64 (s : Sink) (n : UInt64) : Sink :=
  s.write (uint64Bytes n)

def writeDouble (s : Sink) (x : Double) : Sink :=
  s.write (uint64Bytes x.bits)

def writeCString (s : Sink) (text : String) : Sink :=
  s.write (cstringBytes text)

def writeString (s : Sink) (text : String) : Sink :=
  s.write (stringBytes text)

def reserveLength (s : Sink) : Nat × Sink :=
  (s.size, s.write (lengthBytes 0))

def backpatchLength (s : Sink) (offset : Nat) : Sink :=
  ⟨s.bytes.take offset ++ lengthBytes (s.size - offset) ++ s.bytes.drop (offset + 4)⟩

end Sink

end WireSchema.Bson
