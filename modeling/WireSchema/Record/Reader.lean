import WireSchema.Record.Context

namespace WireSchema.Record

open Bson (Document Value)

-- A strict record refuses unknown names, and repeats of its own. A lenient one ignores unknown
-- names, but no name may repeat.

inductive Absence (σ : Type) where
  | refused
  | accepted
  | filled (fill : σ → σ)

structure FieldReader (σ : Type) where
  name : String
  read : Context → Value → σ → Except Fault σ
  absence : Absence σ

def FieldReader.of {σ α : Type} (name : String)
    (decode : Context → String → Value → Except Fault α) (set : α → σ → σ)
    (absence : Absence σ) : FieldReader σ where
  name
  read c value record := (decode c name value).map (set · record)
  absence

structure Form (σ : Type) where
  fields : List (FieldReader σ)
  strict : Bool := true
  lets : String → Bool := fun _ => false

namespace Form

variable {σ : Type}

def field? (form : Form σ) (name : String) : Option (FieldReader σ) :=
  form.fields.find? (·.name == name)

structure Progress (σ : Type) where
  record : σ
  met : List String := []

def take (form : Form σ) (c : Context) (p : Progress σ) (element : String × Value) :
    Except Fault (Progress σ) :=
  let (name, value) := element
  match form.strict, form.field? name with
  -- A name that is let pass is not recorded, so it may repeat.
  | true, none => if form.lets name then .ok p else .error (c.unknownField name)
  | true, some f =>
    if p.met.contains name then .error (c.duplicateField name)
    else (f.read c value p.record).map fun record => { record, met := name :: p.met }
  | false, field =>
    if p.met.contains name then .error (c.duplicateField name)
    else
      match field with
      | none => .ok { p with met := name :: p.met }
      | some f => (f.read c value p.record).map fun record => { record, met := name :: p.met }

def scan (form : Form σ) (c : Context) (start : σ) (elements : Document) :
    Except Fault (Progress σ) :=
  elements.foldlM (form.take c) { record := start }

def finish (form : Form σ) (c : Context) (p : Progress σ) : Except Fault σ :=
  form.fields.foldlM
    (fun record f =>
      if p.met.contains f.name then .ok record
      else
        match f.absence with
        | .refused => .error (c.missingField f.name)
        | .accepted => .ok record
        | .filled fill => .ok (fill record))
    p.record

def read (form : Form σ) (c : Context) (start : σ) (elements : Document) : Except Fault σ := do
  let p ← form.scan c start elements
  form.finish c p

end Form

def readInt32 (c : Context) (name : String) (value : Value) : Except Fault Int32 := do
  c.expectKind name value .int32
  return value.asInt32

def readDouble (c : Context) (name : String) (value : Value) : Except Fault Double := do
  c.expectKind name value .double
  return value.asDouble

def readBool (c : Context) (name : String) (value : Value) : Except Fault Bool := do
  c.expectKind name value .bool
  return value.asBool

def readText (c : Context) (name : String) (value : Value) : Except Fault String := do
  c.expectKind name value .string
  return value.asString

def readNested {α : Type} (read : Context → Document → Except Fault α) (c : Context)
    (name : String) (value : Value) : Except Fault α := do
  c.expectKind name value .object
  read (c.child name) value.asDocument

def readItems {α : Type} (c : Context) (item : Context → String → Value → Except Fault α) :
    Nat → Document → Except Fault (List α)
  | _, [] => .ok []
  | position, (key, value) :: rest =>
    match arrayPosition? key with
    | none => .error (c.arrayKey key)
    | some actual =>
      if actual = position then do
        let first ← item c key value
        let others ← readItems c item (position + 1) rest
        return first :: others
      else .error (c.arrayOrder actual position)

def readArray {α : Type} (item : Context → String → Value → Except Fault α) (c : Context)
    (name : String) (value : Value) : Except Fault (List α) := do
  c.expectKind name value .array
  readItems (c.child name) item 0 value.asArray

def ofBytes {α : Type} (read : Context → Document → Except Fault α) (name : String)
    (bytes : List UInt8) : Except Fault α := do
  let document ← (Document.decode bytes).mapError Fault.undecodable
  read (.root name) document

end WireSchema.Record
