import WireSchema.Bson.Decoding

namespace WireSchema.Bson

-- An access outside of the string is not an outcome here but breaks the run off, and so does a loop
-- that does not end. The type byte of an element is read without asking whether there is one.

inductive Breach where
  | outside (index : Nat)
  -- Bytes are copied to a place of another length.
  | uneven (expected found : Nat)
  | endless

namespace Indexed

abbrev Reading := StateT Nat (Except Breach)

-- An error of the data is an outcome, and leaves the index where it is.
abbrev Decoding := ExceptT DecodeError Reading

def breach {α : Type} (b : Breach) : Reading α :=
  fun _ => .error b

def orThrow {α : Type} (error : DecodeError) (read : Reading (Option α)) : Decoding α := do
  match ← read with
  | some a => return a
  | none => throw error

section

variable (data : List UInt8)

def byteAt (i : Nat) : Reading UInt8 :=
  match data[i]? with
  | some b => return b
  | none => breach (.outside i)

def slice (i j : Nat) : Reading (List UInt8) :=
  if i ≤ j ∧ j ≤ data.length then return (data.drop i).take (j - i) else breach (.outside j)

def readByte : Reading (Option UInt8) := do
  let i ← get
  if data.length ≤ i then return none
  let b ← byteAt data i
  set (i + 1)
  return some b

def readBytes (n : Nat) : Reading (Option (List UInt8)) := do
  let i ← get
  if data.length < i + n then return none
  let bytes ← slice data i (i + n)
  set (i + n)
  return some bytes

def readFixed (n : Nat) : Reading (Option (FixedBytes n)) := do
  match ← readBytes data n with
  | none => return none
  | some bytes =>
    if same : bytes.length = n then return some ⟨bytes, same⟩
    else breach (.uneven n bytes.length)

def readWord {α : Type} (width : Nat) (ofBytes : List UInt8 → α) : Reading (Option α) := do
  let bytes ← readFixed data width
  return bytes.map fun bytes => ofBytes bytes.val

def readInt32 : Reading (Option Int32) :=
  readWord data 4 int32OfBytes

def readBool : Reading (Option Bool) := do
  match ← readByte data with
  | some b => return if b = 0 then some false else if b = 1 then some true else none
  | none => return none

-- The scan for the NUL that ends a text; `i` is how far it has come.
def scan (start i : Nat) : Reading (Option String) :=
  if i < data.length then do
    let b ← byteAt data i
    set (i + 1)
    if b = 0 then
      let text ← slice data start i
      return textOfBytes? text
    else scan start (i + 1)
  else return none
termination_by data.length - i

def readCString : Reading (Option String) := do
  let i ← get
  scan data i i

def readString : Reading (Option String) := do
  match ← readInt32 data with
  | none => return none
  | some length =>
    if length.toInt < 1 then return none
    match ← readBytes data length.toInt.toNat with
    | none => return none
    | some bytes =>
      return if bytes.getLast? = some 0 then textOfBytes? bytes.dropLast else none

def readBinary : Decoding Value := do
  let i ← get
  let length ← orThrow (.unexpectedEnd i) (readInt32 data)
  if length.toInt < 0 then throw (.invalidLength length i)
  let subtype ← orThrow (.unexpectedEnd i) (readByte data)
  let bytes ← orThrow (.unexpectedEnd i) (readBytes data length.toInt.toNat)
  return .binary (.ofByte subtype) bytes

def readRegex : Decoding Value := do
  let i ← get
  let pattern ← orThrow (.invalidText i) (readCString data)
  let options ← orThrow (.invalidText i) (readCString data)
  return .regex pattern options

def readValueOf (nested : Decoding Document) (kind : Kind) : Decoding Value := do
  let i ← get
  let short := DecodeError.unexpectedEnd i
  match kind with
  | .double => return .double (← orThrow short (readWord data 8 fun bytes => ⟨uint64OfBytes bytes⟩))
  | .string => return .string (← orThrow (.invalidText i) (readString data))
  | .object => return .document (← nested)
  | .array => return .array (← nested)
  | .binData => readBinary data
  | .undefined => return .undefined
  | .objectId => return .objectId (← orThrow short (readFixed data 12))
  | .bool => return .bool (← orThrow short (readBool data))
  | .date => return .date (← orThrow short (readWord data 8 int64OfBytes))
  | .null => return .null
  | .regex => readRegex data
  | .int32 => return .int32 (← orThrow short (readInt32 data))
  | .timestamp => do
    let n ← orThrow short (readWord data 8 uint64OfBytes)
    return .timestamp (n / 0x100000000).toUInt32 n.toUInt32
  | .int64 => return .int64 (← orThrow short (readWord data 8 int64OfBytes))
  | .decimal128 => return .decimal128 (← orThrow short (readFixed data 16))

def readValue (nested : Decoding Document) (tag : UInt8) (field : String) : Decoding Value :=
  match Kind.ofTag? tag with
  | some kind => readValueOf data nested kind
  | none => throw (.unknownKind tag field)

def readElements (nested : Decoding Document) (length : Int32) (offset : Nat) :
    Nat → Decoding Document
  | 0 => breach .endless
  | fuel + 1 => do
    let stop := offset + length.toInt.toNat
    let i ← get
    let tag ← byteAt data i
    set (i + 1)
    if tag = 0 then
      if i + 1 = stop then return [] else throw (.invalidLength length offset)
    else
      let name ← readCString data
      match name with
      | none => throw (.invalidText (← get))
      | some name =>
        let value ← readValue data nested tag name
        if stop ≤ (← get) then throw (.invalidLength length offset)
        let rest ← readElements nested length offset fuel
        return (name, value) :: rest

def readNested : Nat → Decoding Document
  | 0 => do throw (.tooDeep maxNesting (← get))
  | levels + 1 => do
    let i ← get
    let length ← orThrow (.unexpectedEnd i) (readInt32 data)
    if length.toInt < 5 ∨ data.length < i + length.toInt.toNat then
      throw (.invalidLength length i)
    readElements data (readNested levels) length i (data.length - (← get))

def readDocument : Decoding Document :=
  readNested data (maxNesting + 1)

def readField (tag : UInt8) (field : String) : Decoding Value :=
  readValue data (readNested data maxNesting) tag field

end

end Indexed

end WireSchema.Bson
