import WireSchema.Record.Reader
import WireSchema.Record.Slot
import WireSchema.Text.Json

namespace WireSchema.Canvas

open Bson (Document Value)
open Record (Context Fault Form Incomplete Slot)

structure Note where
  author : Slot String := .unset ""
  tags : Option (List String) := none
deriving DecidableEq, Repr

namespace Note

def form : Form Note where
  strict := false
  fields := [
    .of "author" Record.readText (fun v n => { n with author := .of v }) .refused,
    .of "tags" (Record.readArray Record.readText) (fun v n => { n with tags := some v }) .accepted]

def read (c : Context) (d : Document) : Except Fault Note :=
  form.read c {} d

def setAuthor (n : Note) (author : String) : Note := { n with author := .of author }

def setTags (n : Note) (tags : Option (List String)) : Note := { n with tags }

def withRequired (author : String) : Note := { author := .of author }

def toDocument (n : Note) : Except Incomplete Document := do
  Record.complete "Note" n.author.given
  return [("author", .string n.author.value)] ++
    n.tags.toList.map fun tags => ("tags", Value.ofItems (tags.map .string))

def toJson (n : Note) : Json :=
  .record [("author", .text n.author.value), ("tags", .ofOption .texts n.tags)]

end Note

end WireSchema.Canvas
