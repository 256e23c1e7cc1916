import WireSchema.Bson.Value
import WireSchema.Number.Reading
import WireSchema.Number.Shortest
import WireSchema.Record.Context
import WireSchema.Settings.Kind

namespace WireSchema.Settings

open Bson (Document)
open Record (Fault)

-- A value is checked by every rule before it is stored, and the update hook runs only after that.

class Storable (α : Type) where
  ofText? : String → Option α
  text : α → String
  toBson : α → Bson.Value
  initial : α
  isLess : α → α → Bool
  isLessOrEqual : α → α → Bool

instance : Storable Int32 where
  ofText? := Integer.int32?
  text n := toString n.toInt
  toBson n := .int32 n
  initial := 0
  isLess m n := decide (m.toInt < n.toInt)
  isLessOrEqual m n := decide (m.toInt ≤ n.toInt)

instance : Storable Int64 where
  ofText? := Integer.int64?
  text n := toString n.toInt
  toBson n := .int64 n
  initial := 0
  isLess m n := decide (m.toInt < n.toInt)
  isLessOrEqual m n := decide (m.toInt ≤ n.toInt)

instance : Storable Double where
  ofText? := Double.ofText?
  text x := x.format .plain
  toBson x := .double x
  initial := .zero
  isLess := Double.numLt
  isLessOrEqual := Double.numLe

instance : Storable Bool where
  ofText?
    | "true" => some true
    | "false" => some false
    | _ => none
  text b := if b then "true" else "false"
  toBson b := .bool b
  initial := false
  isLess a b := !a && b
  isLessOrEqual a b := !a || b

instance : Storable String where
  ofText? := some
  text s := s
  toBson s := .string s
  initial := ""
  isLess s t := decide (s < t)
  isLessOrEqual s t := !decide (t < s)

inductive Bound where
  | greater
  | greaterOrEqual
  | less
  | lessOrEqual
deriving DecidableEq, Repr

namespace Bound

def symbol : Bound → String
  | greater => ">"
  | greaterOrEqual => ">="
  | less => "<"
  | lessOrEqual => "<="

def ofSymbol? (symbol : String) : Option Bound :=
  [greater, greaterOrEqual, less, lessOrEqual].find? (·.symbol == symbol)

def holds {α : Type} [Storable α] (b : Bound) (value limit : α) : Bool :=
  match b with
  | greater => Storable.isLess limit value
  | greaterOrEqual => Storable.isLessOrEqual limit value
  | less => Storable.isLess value limit
  | lessOrEqual => Storable.isLessOrEqual value limit

end Bound

abbrev Rule (α : Type) := α → Except Fault Unit

def Rule.ofBound {α : Type} [Storable α] (name : String) (b : Bound) (limit : α) : Rule α :=
  fun value =>
    if b.holds value limit then .ok ()
    else .error (Record.comparisonFault none name b.symbol (Storable.text value)
      (Storable.text limit))

structure Header where
  name : String
  setAt : SetAt
  redacted : Bool := false
  testOnly : Bool := false
deriving DecidableEq, Repr

structure Stored (α : Type) where
  header : Header
  rules : List (Rule α) := []
  onUpdate : Option (α → Except Fault Unit) := none
  value : Option α := none

def redaction : Bson.Value :=
  .string "###"

namespace Stored

variable {α : Type}

def check (p : Stored α) (value : α) : Except Fault Unit :=
  p.rules.forM (· value)

def setValue (p : Stored α) (value : α) : Except Fault Unit × Stored α :=
  match p.check value with
  | .error fault => (.error fault, p)
  | .ok () =>
    let stored := { p with value := some value }
    match p.onUpdate with
    -- A hook that fails does not undo the change.
    | some hook => (hook value, stored)
    | none => (.ok (), stored)

variable [Storable α]

def setText (p : Stored α) (text : String) : Except Fault Unit × Stored α :=
  match Storable.ofText? text with
  | some value => p.setValue value
  | none => (.error (.parameter (.invalidValue text p.header.name)), p)

def current (p : Stored α) : α :=
  p.value.getD Storable.initial

def elements (p : Stored α) : Document :=
  [(p.header.name, if p.header.redacted then redaction else Storable.toBson p.current)]

end Stored

structure Hooked where
  header : Header
  onText : Option (String → Except Fault Unit) := none
  show? : Option (String → Document) := none

namespace Hooked

def setText (p : Hooked) (text : String) : Except Fault Unit :=
  match p.onText with
  | some hook => hook text
  | none => .error (.parameter (.notFromText p.header.name))

def elements (p : Hooked) : Document :=
  if p.header.redacted then [(p.header.name, redaction)]
  else (p.show?.map (· p.header.name)).getD []

end Hooked

inductive StoredType where
  | int32
  | int64
  | double
  | bool
  | string
deriving DecidableEq, Repr

def StoredType.Carrier : StoredType → Type
  | int32 => Int32
  | int64 => Int64
  | double => Double
  | bool => Bool
  | string => String

instance (t : StoredType) : Storable t.Carrier :=
  match t with
  | .int32 => inferInstanceAs (Storable Int32)
  | .int64 => inferInstanceAs (Storable Int64)
  | .double => inferInstanceAs (Storable Double)
  | .bool => inferInstanceAs (Storable Bool)
  | .string => inferInstanceAs (Storable String)

inductive Parameter where
  | stored (type : StoredType) (p : Stored type.Carrier)
  | hooked (p : Hooked)

namespace Parameter

def header : Parameter → Header
  | stored _ p => p.header
  | hooked p => p.header

def name (p : Parameter) : String :=
  p.header.name

-- Setting may fail after the value was stored, so the parameter comes back in any case.
def setText (p : Parameter) (text : String) : Except Fault Unit × Parameter :=
  match p with
  | stored type p =>
    let (result, p) := p.setText text
    (result, stored type p)
  | hooked p => (p.setText text, hooked p)

def elements : Parameter → Document
  | stored _ p => p.elements
  | hooked p => p.elements

end Parameter

end WireSchema.Settings
