import WireSchema.Bson.Kind
import WireSchema.Number.Double
import WireSchema.Number.Hex
import WireSchema.Number.Shortest
import WireSchema.Text.Quoted

namespace WireSchema.Bson

-- An array is kept as a document, so that its keys survive exactly as they were received; whether
-- they count up from zero is for the reader of the array to decide.

abbrev FixedBytes (n : Nat) := { bytes : List UInt8 // bytes.length = n }

def FixedBytes.zero (n : Nat) : FixedBytes n :=
  ⟨List.replicate n 0, List.length_replicate⟩

instance (n : Nat) : Inhabited (FixedBytes n) := ⟨FixedBytes.zero n⟩

inductive Value where
  | double (number : Double)
  | string (text : String)
  | document (elements : List (String × Value))
  | array (elements : List (String × Value))
  | binary (subtype : Subtype) (bytes : List UInt8)
  | undefined
  | objectId (bytes : FixedBytes 12)
  | bool (flag : Bool)
  | date (millis : Int64)
  | null
  | regex (pattern options : String)
  | int32 (number : Int32)
  | timestamp (time increment : UInt32)
  | int64 (number : Int64)
  | decimal128 (bytes : FixedBytes 16)

abbrev Document := List (String × Value)

instance : Inhabited Value := ⟨.null⟩

namespace Value

def kind : Value → Kind
  | double _ => .double
  | string _ => .string
  | document _ => .object
  | array _ => .array
  | binary _ _ => .binData
  | undefined => .undefined
  | objectId _ => .objectId
  | bool _ => .bool
  | date _ => .date
  | null => .null
  | regex _ _ => .regex
  | int32 _ => .int32
  | timestamp _ _ => .timestamp
  | int64 _ => .int64
  | decimal128 _ => .decimal128

-- Each reading gives a fixed answer for a value of another kind.

def asDouble : Value → Double
  | double x => x
  | _ => .zero

def asString : Value → String
  | string s => s
  | _ => ""

def asDocument : Value → Document
  | document d => d
  | _ => []

def asArray : Value → Document
  | array d => d
  | _ => []

def asBinary : Value → List UInt8
  | binary _ bytes => bytes
  | _ => []

def subtype? : Value → Option Subtype
  | binary s _ => some s
  | _ => none

def asObjectId : Value → FixedBytes 12
  | objectId id => id
  | _ => .zero 12

def asBool : Value → Bool
  | bool b => b
  | _ => false

def asDate : Value → Int64
  | date t => t
  | _ => 0

def asInt32 : Value → Int32
  | int32 n => n
  | _ => 0

def asTimestamp : Value → UInt32 × UInt32
  | timestamp t i => (t, i)
  | _ => (0, 0)

def asInt64 : Value → Int64
  | int64 n => n
  | _ => 0

def asDecimal128 : Value → FixedBytes 16
  | decimal128 d => d
  | _ => .zero 16

end Value

mutual

-- Doubles are compared as numbers here: a document that holds a NaN differs from itself.
def Value.numEq : Value → Value → Bool
  | .double x, .double y => x.numEq y
  | .string s, .string t => s == t
  | .document d, .document e => elementsNumEq d e
  | .array d, .array e => elementsNumEq d e
  | .binary s b, .binary t c => s == t && b == c
  | .undefined, .undefined => true
  | .objectId a, .objectId b => a == b
  | .bool a, .bool b => a == b
  | .date a, .date b => a == b
  | .null, .null => true
  | .regex p o, .regex q r => p == q && o == r
  | .int32 a, .int32 b => a == b
  | .timestamp t i, .timestamp u j => t == u && i == j
  | .int64 a, .int64 b => a == b
  | .decimal128 a, .decimal128 b => a == b
  | _, _ => false

def elementsNumEq : List (String × Value) → List (String × Value) → Bool
  | [], [] => true
  | (n, v) :: d, (m, w) :: e => n == m && v.numEq w && elementsNumEq d e
  | _, _ => false

end

namespace Document

def get? (d : Document) (name : String) : Option Value :=
  d.lookup name

def contains (d : Document) (name : String) : Bool :=
  (get? d name).isSome

def erase (d : Document) (name : String) : Document :=
  d.filter (·.1 != name)

def names (d : Document) : List String :=
  d.map (·.1)

def append (d : Document) (name : String) (value : Value) : Document :=
  d ++ [(name, value)]

def numEq (d e : Document) : Bool :=
  elementsNumEq d e

end Document

def keyedFrom (start : Nat) : List Value → Document
  | [] => []
  | v :: rest => (toString start, v) :: keyedFrom (start + 1) rest

def Value.ofItems (items : List Value) : Value :=
  .array (keyedFrom 0 items)

def describeBytes (bytes : List UInt8) : String :=
  "[" ++ ", ".intercalate (bytes.map fun b => toString b.toNat) ++ "]"

def describeDate (millis : Int64) : String :=
  s!"Date({millis.toInt})"

def describeTimestamp (time increment : UInt32) : String :=
  s!"Timestamp({time.toNat}, {increment.toNat})"

mutual

def Value.describe : Value → String
  | .double x => x.format .described
  | .string s => Quoted.describe s
  | .document d => "\x7b" ++ ", ".intercalate (describeElements d) ++ "\x7d"
  | .array d => "[" ++ ", ".intercalate (describeItems d) ++ "]"
  | .binary s bytes => s!"BinData({s.toByte.toNat}, {describeBytes bytes})"
  | .undefined => "undefined"
  | .objectId id => s!"ObjectId({Hex.ofBytes id.val})"
  | .bool b => if b then "true" else "false"
  | .date t => describeDate t
  | .null => "null"
  | .regex pattern options => s!"/{pattern}/{options}"
  | .int32 n => toString n.toInt
  | .timestamp t i => describeTimestamp t i
  | .int64 n => s!"NumberLong({n.toInt})"
  | .decimal128 d => s!"NumberDecimal({describeBytes d.val})"

def describeElements : List (String × Value) → List String
  | [] => []
  | (name, v) :: rest => (name ++ ": " ++ v.describe) :: describeElements rest

def describeItems : List (String × Value) → List String
  | [] => []
  | (_, v) :: rest => v.describe :: describeItems rest

end

def Document.describe (d : Document) : String :=
  (Value.document d).describe

end WireSchema.Bson
