namespace WireSchema.Bson

def littleEndian : Nat → Nat → List UInt8
  | 0, _ => []
  | width + 1, n => UInt8.ofNat n :: littleEndian width (n / 256)

def ofLittleEndian : List UInt8 → Nat
  | [] => 0
  | b :: rest => b.toNat + 256 * ofLittleEndian rest

def int32Bytes (n : Int32) : List UInt8 :=
  littleEndian 4 n.toUInt32.toNat

def int64Bytes (n : Int64) : List UInt8 :=
  littleEndian 8 n.toUInt64.toNat

def uint64Bytes (n : UInt64) : List UInt8 :=
  littleEndian 8 n.toNat

-- A length field counts modulo two to the thirty-second.
def lengthBytes (n : Nat) : List UInt8 :=
  littleEndian 4 n

def int32OfBytes (bytes : List UInt8) : Int32 :=
  (UInt32.ofNat (ofLittleEndian bytes)).toInt32

def int64OfBytes (bytes : List UInt8) : Int64 :=
  (UInt64.ofNat (ofLittleEndian bytes)).toInt64

def uint64OfBytes (bytes : List UInt8) : UInt64 :=
  UInt64.ofNat (ofLittleEndian bytes)

def textBytes (s : String) : List UInt8 :=
  s.toUTF8.data.toList

def textOfBytes? (bytes : List UInt8) : Option String :=
  String.fromUTF8? ⟨bytes.toArray⟩

-- A NUL inside the text is not guarded against.
def cstringBytes (s : String) : List UInt8 :=
  textBytes s ++ [0]

def stringBytes (s : String) : List UInt8 :=
  lengthBytes ((textBytes s).length + 1) ++ cstringBytes s

def boolByte (b : Bool) : UInt8 :=
  if b then 1 else 0

end WireSchema.Bson
