import WireSchema.Record.Reader
import WireSchema.Record.Slot
import WireSchema.Text.Json
import WireSchema.Text.ListOrder

namespace WireSchema.Canvas

open Bson (Document Value)
open Record (Context Fault FieldReader Form Incomplete Slot)

structure Point where
  x : Slot Int32 := .unset 0
  y : Slot Int32 := .unset 0
  label : Option String := none
deriving DecidableEq, Repr

namespace Point

def form : Form Point where
  fields := [
    .of "x" Record.readInt32 (fun v p => { p with x := .of v }) .refused,
    .of "y" Record.readInt32 (fun v p => { p with y := .of v }) .refused,
    .of "label" Record.readText (fun v p => { p with label := some v }) .accepted]

def read (c : Context) (d : Document) : Except Fault Point :=
  form.read c {} d

def setX (p : Point) (x : Int32) : Point := { p with x := .of x }

def setY (p : Point) (y : Int32) : Point := { p with y := .of y }

def setLabel (p : Point) (label : Option String) : Point := { p with label }

def withRequired (x y : Int32) : Point := { x := .of x, y := .of y }

def toDocument (p : Point) : Except Incomplete Document := do
  Record.complete "Point" (p.x.given && p.y.given)
  return [("x", .int32 p.x.value), ("y", .int32 p.y.value)] ++
    p.label.toList.map fun l => ("label", Value.string l)

def same (p q : Point) : Bool :=
  p.x.value == q.x.value && p.y.value == q.y.value

def order (p q : Point) : Ordering :=
  (compare p.x.value.toInt q.x.value.toInt).then (compare p.y.value.toInt q.y.value.toInt)

def toJson (p : Point) : Json :=
  .record [("x", .number p.x.value.toInt), ("y", .number p.y.value.toInt),
    ("label", .ofText? p.label)]

end Point

inductive ShapeKind where
  | polygon
  | circle
deriving DecidableEq, Repr, Inhabited

namespace ShapeKind

def text : ShapeKind → String
  | polygon => "polygon"
  | circle => "circle"

def read (c : Context) (text : String) : Except Fault ShapeKind :=
  match text with
  | "polygon" => .ok polygon
  | "circle" => .ok circle
  | _ => .error (c.enumValue text)

def rank : ShapeKind → Nat
  | polygon => 0
  | circle => 1

def order (k l : ShapeKind) : Ordering :=
  compare k.rank l.rank

end ShapeKind

structure Shape where
  name : Slot String := .unset ""
  kind : Slot ShapeKind := .unset .polygon
  points : Slot (List Point) := .unset []
  sides : Int32 := 3
deriving DecidableEq, Repr

namespace Shape

def defaultSides : Int32 := 3

def checkSides (c : Option Context) (sides : Int32) : Except Fault Unit :=
  if 3 ≤ sides.toInt then .ok ()
  else .error (Record.comparisonFault c "sides" ">=" (toString sides.toInt) "3")

def readKind (c : Context) (name : String) (value : Value) : Except Fault ShapeKind := do
  c.expectKind name value .string
  ShapeKind.read (c.child name) value.asString

def readSides (c : Context) (name : String) (value : Value) : Except Fault Int32 := do
  let sides ← Record.readInt32 c name value
  checkSides (some c) sides
  return sides

def form : Form Shape where
  fields := [
    .of "name" Record.readText (fun v s => { s with name := .of v }) .refused,
    .of "kind" readKind (fun v s => { s with kind := .of v }) .refused,
    .of "points" (Record.readArray (Record.readNested Point.read))
      (fun v s => { s with points := .of v }) .refused,
    .of "sides" readSides (fun v s => { s with sides := v })
      (.filled fun s => { s with sides := defaultSides })]

def read (c : Context) (d : Document) : Except Fault Shape :=
  form.read c {} d

def setName (s : Shape) (name : String) : Shape := { s with name := .of name }

def setKind (s : Shape) (kind : ShapeKind) : Shape := { s with kind := .of kind }

def setPoints (s : Shape) (points : List Point) : Shape := { s with points := .of points }

def modifyPoints (s : Shape) (f : List Point → List Point) : Shape :=
  { s with points := s.points.modify f }

def setSides (s : Shape) (sides : Int32) : Except Fault Shape := do
  checkSides none sides
  return { s with sides }

def withRequired (name : String) (kind : ShapeKind) (points : List Point) : Shape :=
  { name := .of name, kind := .of kind, points := .of points }

def toDocument (s : Shape) : Except Incomplete Document := do
  Record.complete "Shape" (s.name.given && s.kind.given && s.points.given)
  let points ← s.points.value.mapM (·.toDocument)
  return [("name", .string s.name.value), ("kind", .string s.kind.value.text),
    ("points", .ofItems (points.map .document)), ("sides", .int32 s.sides)]

def same (s t : Shape) : Bool :=
  s.name.value == t.name.value && s.kind.value == t.kind.value &&
    (s.points.value.length == t.points.value.length &&
      (s.points.value.zip t.points.value).all fun (p, q) => p.same q) &&
    s.sides == t.sides

def order (s t : Shape) : Ordering :=
  (compare s.name.value t.name.value).then <|
    (s.kind.value.order t.kind.value).then <|
      (orderLists Point.order s.points.value t.points.value).then
        (compare s.sides.toInt t.sides.toInt)

def toJson (s : Shape) : Json :=
  .record [("name", .text s.name.value), ("kind", .text s.kind.value.text),
    ("sides", .number s.sides.toInt), ("points", .list (s.points.value.map (·.toJson)))]

end Shape

end WireSchema.Canvas
