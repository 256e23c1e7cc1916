import WireSchema.Record.Reader
import WireSchema.Record.Slot
import WireSchema.Text.Json

namespace WireSchema.Canvas

open Bson (Document)
open Record (Context Fault Form Incomplete Slot)

structure Style where
  color : Slot String := .unset ""
  font : String := "sans"
deriving DecidableEq, Repr

namespace Style

def setColor (s : Style) (color : String) : Style := { s with color := .of color }

def setFont (s : Style) (font : String) : Style := { s with font }

def form : Form Style where
  fields := [
    .of "color" Record.readText (fun v s => s.setColor v) .refused,
    .of "font" Record.readText (fun v s => s.setFont v) (.filled (·.setFont "sans"))]

def read (c : Context) (d : Document) : Except Fault Style :=
  form.read c {} d

def withRequired (color : String) : Style := { color := .of color }

def toDocument (s : Style) : Except Incomplete Document := do
  Record.complete "Style" s.color.given
  return [("color", .string s.color.value), ("font", .string s.font)]

def toJson (s : Style) : Json :=
  .record [("color", .text s.color.value), ("font", .text s.font)]

end Style

structure Layer where
  style : Style := {}
  depth : Slot Int32 := .unset 0
deriving DecidableEq, Repr

namespace Layer

def modifyStyle (l : Layer) (f : Style → Style) : Layer := { l with style := f l.style }

def setStyle (l : Layer) (style : Style) : Layer := { l with style }

def setDepth (l : Layer) (depth : Int32) : Layer := { l with depth := .of depth }

def form : Form Layer where
  fields := [
    .of "color" Record.readText (fun v l => l.modifyStyle (·.setColor v)) .refused,
    .of "font" Record.readText (fun v l => l.modifyStyle (·.setFont v))
      (.filled fun l => l.modifyStyle (·.setFont "sans")),
    .of "depth" Record.readInt32 (fun v l => l.setDepth v) .refused]

def read (c : Context) (d : Document) : Except Fault Layer :=
  form.read c {} d

def withRequired (depth : Int32) : Layer := { depth := .of depth }

def toDocument (l : Layer) : Except Incomplete Document := do
  Record.complete "Layer" l.depth.given
  let style ← l.style.toDocument
  return style ++ [("depth", .int32 l.depth.value)]

def toJson (l : Layer) : Json :=
  .record [("color", .text l.style.color.value), ("font", .text l.style.font),
    ("depth", .number l.depth.value.toInt), ("style_fields", l.style.toJson)]

end Layer

end WireSchema.Canvas
