import WireSchema.Bson.Cursor
import WireSchema.Bson.Value

namespace WireSchema.Bson

-- No length is trusted: a document must lie within the data, and its elements must end exactly
-- where its length says.

inductive DecodeError where
  | unexpectedEnd (offset : Nat)
  | invalidLength (length : Int32) (offset : Nat)
  | unknownKind (tag : UInt8) (field : String)
  | invalidText (offset : Nat)
  | tooDeep (limit offset : Nat)
  | trailingBytes (count : Nat)
deriving DecidableEq, Repr

def DecodeError.message : DecodeError → String
  | unexpectedEnd offset => s!"Unexpected end of buffer at offset {offset}"
  | invalidLength length offset => s!"Invalid document length {length.toInt} at offset {offset}"
  | unknownKind tag field =>
    "Unknown element type 0x" ++ String.ofList (Hex.ofByte tag) ++ " for field \"" ++ field ++ "\""
  | invalidText offset => s!"Invalid UTF-8 at offset {offset}"
  | tooDeep limit offset => s!"Documents nested deeper than {limit} levels at offset {offset}"
  | trailingBytes count => s!"{count} trailing bytes after document"

def maxNesting : Nat := 200

abbrev Outcome (α : Type) := Except DecodeError α × Cursor

namespace Attempt

def decoded {α β : Type} (error : DecodeError) (f : α → β) : Attempt α → Outcome β
  | (some a, c) => (.ok (f a), c)
  | (none, c) => (.error error, c)

end Attempt

def readBinary (c : Cursor) : Outcome Value :=
  let offset := c.index
  match c.readInt32 with
  | (none, c) => (.error (.unexpectedEnd offset), c)
  | (some length, c) =>
    if length.toInt < 0 then (.error (.invalidLength length offset), c) else
    match c.readByte with
    | (none, c) => (.error (.unexpectedEnd offset), c)
    | (some subtype, c) =>
      Attempt.decoded (.unexpectedEnd offset) (Value.binary (.ofByte subtype))
        (c.readBytes length.toInt.toNat)

def readRegex (c : Cursor) : Outcome Value :=
  let offset := c.index
  match c.readCString with
  | (none, c) => (.error (.invalidText offset), c)
  | (some pattern, c) =>
    Attempt.decoded (.invalidText offset) (Value.regex pattern) c.readCString

def readValueOf (nested : Cursor → Outcome Document) (kind : Kind) (c : Cursor) : Outcome Value :=
  let short := DecodeError.unexpectedEnd c.index
  match kind with
  | .double => Attempt.decoded short Value.double c.readDouble
  | .string => Attempt.decoded (.invalidText c.index) Value.string c.readString
  | .object =>
    match nested c with
    | (.ok d, c) => (.ok (.document d), c)
    | (.error e, c) => (.error e, c)
  | .array =>
    match nested c with
    | (.ok d, c) => (.ok (.array d), c)
    | (.error e, c) => (.error e, c)
  | .binData => readBinary c
  | .undefined => (.ok .undefined, c)
  | .objectId => Attempt.decoded short Value.objectId (c.readFixed 12)
  | .bool => Attempt.decoded short Value.bool c.readBool
  | .date => Attempt.decoded short Value.date c.readInt64
  | .null => (.ok .null, c)
  | .regex => readRegex c
  | .int32 => Attempt.decoded short Value.int32 c.readInt32
  | .timestamp =>
    Attempt.decoded short
      (fun n => Value.timestamp (n / 0x100000000).toUInt32 n.toUInt32) c.readUInt64
  | .int64 => Attempt.decoded short Value.int64 c.readInt64
  | .decimal128 => Attempt.decoded short Value.decimal128 (c.readFixed 16)

def readValue (nested : Cursor → Outcome Document) (tag : UInt8) (field : String) (c : Cursor) :
    Outcome Value :=
  match Kind.ofTag? tag with
  | some kind => readValueOf nested kind c
  | none => (.error (.unknownKind tag field), c)

-- Each element takes at least two bytes, so the number of bytes ahead is fuel enough.
def readElements (nested : Cursor → Outcome Document) (length : Int32) (offset : Nat) :
    Nat → Cursor → Outcome Document
  | 0, c => (.error (.unexpectedEnd c.index), c)
  | fuel + 1, c =>
    let stop := offset + length.toInt.toNat
    match c.readByte with
    | (none, c) => (.error (.unexpectedEnd c.index), c)
    | (some tag, c) =>
      if tag = 0 then
        if c.index = stop then (.ok [], c) else (.error (.invalidLength length offset), c)
      else
        match c.readCString with
        | (none, c) => (.error (.invalidText c.index), c)
        | (some name, c) =>
          match readValue nested tag name c with
          | (.error e, c) => (.error e, c)
          | (.ok value, c) =>
            -- A value has to leave room for the terminator.
            if stop ≤ c.index then (.error (.invalidLength length offset), c) else
            match readElements nested length offset fuel c with
            | (.error e, c) => (.error e, c)
            | (.ok rest, c) => (.ok ((name, value) :: rest), c)

-- A document that may itself hold `levels - 1` levels of others.
def readNested : Nat → Cursor → Outcome Document
  | 0, c => (.error (.tooDeep maxNesting c.index), c)
  | levels + 1, c =>
    match c.readInt32 with
    | (none, c') => (.error (.unexpectedEnd c.index), c')
    | (some length, c') =>
      -- The least document is a length of four bytes and the terminator.
      if length.toInt < 5 ∨ c.remaining < length.toInt.toNat then
        (.error (.invalidLength length c.index), c')
      else readElements (readNested levels) length c.index c'.remaining c'

def Document.read (c : Cursor) : Outcome Document :=
  readNested (maxNesting + 1) c

def Value.read (tag : UInt8) (field : String) (c : Cursor) : Outcome Value :=
  readValue (readNested maxNesting) tag field c

def Document.decode (bytes : List UInt8) : Except DecodeError Document :=
  match Document.read (.ofBytes bytes) with
  | (.error e, _) => .error e
  | (.ok d, c) => if c.remaining = 0 then .ok d else .error (.trailingBytes c.remaining)

end WireSchema.Bson
