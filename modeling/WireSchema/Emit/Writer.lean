import WireSchema.Text.Trim

namespace WireSchema.Emit

-- A block is written only as a whole: its body goes to a buffer of its own, blank lines at the end
-- of the body are dropped, and a body that fails leaves nothing behind. A gap is a blank line, but
-- never at the start of a buffer, after another blank line or after an opening brace.

structure Writer where
  newest : List String := []
  level : Nat := 0

namespace Writer

def empty : Writer := {}

def margin (level : Nat) : String :=
  String.ofList (List.replicate (4 * level) ' ')

def indented (w : Writer) (text : String) : String :=
  if text.isEmpty then "" else margin w.level ++ text

def line (w : Writer) (text : String) : Writer :=
  let lines := (text.toList.splitOn '\n').map fun cs => w.indented (String.ofList cs)
  { w with newest := lines.reverse ++ w.newest }

def gap (w : Writer) : Writer :=
  match w.newest with
  | [] => w
  | last :: _ =>
    if last.isEmpty || last.toList.getLast? == some '\x7b' then w
    else { w with newest := "" :: w.newest }

def indent (w : Writer) : Writer :=
  { w with level := w.level + 1 }

def unindent (w : Writer) : Writer :=
  { w with level := w.level - 1 }

def inner (w : Writer) : Writer :=
  { newest := [], level := w.level + 1 }

def wrap (w : Writer) (opening closing : String) (body : Writer) : Writer :=
  let opened := w.line opening
  let filled : Writer := { opened with newest := body.newest.dropWhile String.isEmpty ++ opened.newest }
  filled.line closing

def block {ε : Type} (w : Writer) (opening closing : String) (body : Writer → Except ε Writer) :
    Except ε Writer := do
  let b ← body w.inner
  return w.wrap opening closing b

def text (w : Writer) : String :=
  "\n".intercalate (w.newest.dropWhile String.isEmpty).reverse ++ "\n"

end Writer

inductive Code where
  | line (text : String)
  | gap
  | indented (body : List Code)
  | block (opening closing : String) (body : List Code)

def Code.braces (head : String) (body : List Code) : Code :=
  .block (head ++ " \x7b") "\x7d" body

mutual

def Code.write : Code → Writer → Writer
  | .line text, w => w.line text
  | .gap, w => w.gap
  | .indented body, w => (Code.writeAll body w.indent).unindent
  | .block opening closing body, w => w.wrap opening closing (Code.writeAll body w.inner)

def Code.writeAll : List Code → Writer → Writer
  | [], w => w
  | c :: rest, w => Code.writeAll rest (c.write w)

end

def Code.text (code : List Code) : String :=
  (Code.writeAll code .empty).text

-- A carriage return before a line end belongs to it, and a line end at the very end starts no
-- further line.
def linesOf (text : String) : List String :=
  let pieces := text.toList.splitOn '\n'
  let pieces := if pieces.getLast? == some [] then pieces.dropLast else pieces
  let ended := if text.toList.getLast? == some '\n' then pieces.length else pieces.length - 1
  (pieces.zipIdx).map fun (cs, i) =>
    String.ofList (if i < ended && cs.getLast? == some '\r' then cs.dropLast else cs)

def documentation (description : Option String) : List Code :=
  (linesOf (description.getD "")).map fun line =>
    .line (String.ofList (Text.dropEnd Text.isBlank ("/// " ++ Text.trim line).toList))

end WireSchema.Emit
