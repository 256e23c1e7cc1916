import WireSchema.Bson.Bytes
import WireSchema.Number.Double

namespace WireSchema.Bson

-- A failed read may have moved the cursor: over a length that was read before the bytes behind it
-- turned out to be missing, over a byte that is no boolean, or to the end when a text has no final
-- NUL.

structure Cursor where
  index : Nat
  rest : List UInt8
deriving DecidableEq

abbrev Attempt (α : Type) := Option α × Cursor

namespace Cursor

def ofBytes (bytes : List UInt8) : Cursor :=
  ⟨0, bytes⟩

def remaining (c : Cursor) : Nat :=
  c.rest.length

def size (c : Cursor) : Nat :=
  c.index + c.rest.length

def advance (c : Cursor) (n : Nat) : Cursor :=
  ⟨c.index + n, c.rest.drop n⟩

def readByte (c : Cursor) : Attempt UInt8 :=
  match c.rest with
  | [] => (none, c)
  | b :: rest => (some b, ⟨c.index + 1, rest⟩)

def readBytes (n : Nat) (c : Cursor) : Attempt (List UInt8) :=
  if n ≤ c.rest.length then (some (c.rest.take n), c.advance n) else (none, c)

def mapRead {α β : Type} (f : α → β) : Attempt α → Attempt β
  | (a, c) => (a.map f, c)

def readBool (c : Cursor) : Attempt Bool :=
  match c.readByte with
  | (some b, c) => (if b = 0 then some false else if b = 1 then some true else none, c)
  | (none, c) => (none, c)

def readInt32 (c : Cursor) : Attempt Int32 :=
  mapRead int32OfBytes (c.readBytes 4)

def readInt64 (c : Cursor) : Attempt Int64 :=
  mapRead int64OfBytes (c.readBytes 8)

def readUInt64 (c : Cursor) : Attempt UInt64 :=
  mapRead uint64OfBytes (c.readBytes 8)

def readDouble (c : Cursor) : Attempt Double :=
  mapRead (fun bytes => ⟨uint64OfBytes bytes⟩) (c.readBytes 8)

def readFixed (n : Nat) (c : Cursor) : Attempt { bytes : List UInt8 // bytes.length = n } :=
  if h : n ≤ c.rest.length then
    (some ⟨c.rest.take n, by simp [List.length_take, Nat.min_eq_left h]⟩, c.advance n)
  else (none, c)

def readCString (c : Cursor) : Attempt String :=
  let text := c.rest.takeWhile (· != 0)
  if text.length < c.rest.length then
    (textOfBytes? text, c.advance (text.length + 1))
  else (none, c.advance text.length)

def readString (c : Cursor) : Attempt String :=
  match c.readInt32 with
  | (none, c) => (none, c)
  | (some length, c) =>
    -- The length counts the final NUL, so it is never below one.
    if length.toInt < 1 then (none, c) else
    match c.readBytes length.toInt.toNat with
    | (none, c) => (none, c)
    | (some bytes, c) =>
      (if bytes.getLast? = some 0 then textOfBytes? bytes.dropLast else none, c)

end Cursor

end WireSchema.Bson
