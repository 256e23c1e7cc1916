import WireSchema.Canvas.Shape
import WireSchema.Record.Request

namespace WireSchema.Canvas

open Bson (Document Value)
open Record (Context Fault Form Incomplete Namespace Request Slot)

structure DrawReply where
  ok : Slot Double := .unset .zero
  drawn : Slot Int32 := .unset 0
deriving DecidableEq, Repr

namespace DrawReply

def form : Form DrawReply where
  fields := [
    .of "ok" Record.readDouble (fun v r => { r with ok := .of v }) .refused,
    .of "drawn" Record.readInt32 (fun v r => { r with drawn := .of v }) .refused]

def read (c : Context) (d : Document) : Except Fault DrawReply :=
  form.read c {} d

def setOk (r : DrawReply) (ok : Double) : DrawReply := { r with ok := .of ok }

def setDrawn (r : DrawReply) (drawn : Int32) : DrawReply := { r with drawn := .of drawn }

def withRequired (ok : Double) (drawn : Int32) : DrawReply := { ok := .of ok, drawn := .of drawn }

def toDocument (r : DrawReply) : Except Incomplete Document := do
  Record.complete "DrawReply" (r.ok.given && r.drawn.given)
  return [("ok", .double r.ok.value), ("drawn", .int32 r.drawn.value)]

end DrawReply

structure Draw where
  ns : Namespace
  shape : Slot Shape := .unset {}
  dryRun : Option Bool := none
  db : Slot String
deriving DecidableEq, Repr

namespace Draw

def ofNamespace (ns : Namespace) : Draw :=
  { ns, db := .of ns.db }

def setShape (d : Draw) (shape : Shape) : Draw := { d with shape := .of shape }

def modifyShape (d : Draw) (f : Shape → Shape) : Draw := { d with shape := d.shape.modify f }

def setDryRun (d : Draw) (dryRun : Option Bool) : Draw := { d with dryRun }

def setDb (d : Draw) (db : String) : Draw := { d with db := .of db }

def withRequired (ns : Namespace) (shape : Shape) : Draw :=
  (ofNamespace ns).setShape shape

def form : Form Draw where
  lets := Record.isGenericArgument
  fields := [
    .of "shape" (Record.readNested Shape.read) (fun v d => d.setShape v) .refused,
    .of "dryRun" Record.readBool (fun v d => d.setDryRun (some v)) .accepted,
    .of "$db" Record.readText (fun v d => d.setDb v) .refused]

-- The first element names the collection, whatever it is called, and is read last, when the
-- database is known. No document sequence belongs to the command.
def readRequest (c : Context) (r : Request) : Except Fault Draw := do
  let p ← form.scan c (ofNamespace default) (r.body.drop 1)
  match r.sequences with
  | sequence :: _ => throw (c.unknownField sequence.name)
  | [] =>
    let d ← form.finish c p
    match r.body with
    | [] => return d
    | (_, first) :: _ => return { d with ns := ← c.collection d.db.value first }

def read (c : Context) (body : Document) : Except Fault Draw :=
  readRequest c { body }

def knownFields : List String :=
  ["draw", "shape", "dryRun", "$db"]

def ownElements (d : Draw) : Except Incomplete Document := do
  let shape ← d.shape.value.toDocument
  return [("draw", .string d.ns.coll), ("shape", .document shape)] ++
    d.dryRun.toList.map fun b => ("dryRun", Value.bool b)

def toDocument (d : Draw) (passed : Document) : Except Incomplete Document := do
  Record.complete "Draw" d.shape.given
  let own ← d.ownElements
  return own ++ Record.passedArguments knownFields passed

def toRequest (d : Draw) (passed : Document) : Except Incomplete Request := do
  Record.complete "Draw" (d.shape.given && d.db.given)
  let own ← d.ownElements
  return { body := own ++ [("$db", .string d.db.value)] ++ Record.passedArguments knownFields passed }

end Draw

end WireSchema.Canvas
