import WireSchema.Bson.Bytes
import WireSchema.Files.Path
import WireSchema.Text.ListOrder

namespace WireSchema.Files

-- Paths are followed name by name as they are spelled, so `a/../b` needs a directory `a`.

inductive FileError where
  | notFound
  | alreadyExists
  | notDirectory
  | isDirectory
  | busy
  | nameTooLong
  | zeroByte
  | notText
deriving DecidableEq, Repr

def FileError.message : FileError → String
  | notFound => "No such file or directory (os error 2)"
  | alreadyExists => "File exists (os error 17)"
  | notDirectory => "Not a directory (os error 20)"
  | isDirectory => "Is a directory (os error 21)"
  | busy => "Device or resource busy (os error 16)"
  | nameTooLong => "File name too long (os error 36)"
  | zeroByte => "file name contained an unexpected NUL byte"
  | notText => "stream did not contain valid UTF-8"

inductive Entry where
  | directory
  | file (bytes : List UInt8)
deriving DecidableEq, Repr

abbrev Place := List String

-- The top is always a directory.
structure FileTree where
  entries : List (Place × Entry) := []
  home : Place := []

namespace FileTree

def entry? (t : FileTree) (p : Place) : Option Entry :=
  if p = [] then some .directory else t.entries.lookup p

def put (t : FileTree) (p : Place) (e : Entry) : FileTree :=
  { t with entries := (p, e) :: t.entries.filter (·.1 != p) }

def erase (t : FileTree) (p : Place) : FileTree :=
  { t with entries := t.entries.filter (·.1 != p) }

def maxName : Nat := 255

def maxPath : Nat := 4095

def follow (t : FileTree) (here : Place) : List String → Except FileError Place
  | [] => .ok here
  | name :: rest =>
    match t.entry? here with
    | none => .error .notFound
    | some (.file _) => .error .notDirectory
    | some .directory =>
      if Path.isIdle name then t.follow here rest
      else if name == ".." then t.follow here.dropLast rest
      else if maxName < name.utf8ByteSize then .error .nameTooLong
      else t.follow (here ++ [name]) rest

def checkPath (path : String) : Except FileError Unit :=
  if path.toList.contains '\x00' then .error .zeroByte
  else if path.isEmpty then .error .notFound
  else if maxPath < path.utf8ByteSize then .error .nameTooLong
  else .ok ()

def start (t : FileTree) (path : String) : Place :=
  if Path.isAbsolute path then [] else t.home

def locate (t : FileTree) (path : String) : Except FileError Place := do
  checkPath path
  t.follow (t.start path) (Path.pieces path.toList)

def find (t : FileTree) (path : String) : Except FileError Entry := do
  let p ← t.locate path
  match t.entry? p with
  | some e => return e
  | none => throw .notFound

def isFile (t : FileTree) (path : String) : Bool :=
  match t.find path with
  | .ok (.file _) => true
  | _ => false

def isDirectory (t : FileTree) (path : String) : Bool :=
  match t.find path with
  | .ok .directory => true
  | _ => false

def readText (t : FileTree) (path : String) : Except FileError String := do
  match ← t.find path with
  | .directory => throw .isDirectory
  | .file bytes =>
    match Bson.textOfBytes? bytes with
    | some text => return text
    | none => throw .notText

def makeDirectory (t : FileTree) (path : String) : Except FileError FileTree := do
  let p ← t.locate path
  if (t.entry? p).isSome then throw .alreadyExists else return t.put p .directory

-- What was made stays, also when something above or below it cannot be.
def makeDirectoriesWithin : Nat → FileTree → String → Except FileError Unit × FileTree
  | 0, t, _ => (.ok (), t)
  | depth + 1, t, path =>
    if path.isEmpty then (.ok (), t)
    else
      let existing (t : FileTree) (e : FileError) : Except FileError Unit × FileTree :=
        (if t.isDirectory path then .ok () else .error e, t)
      match t.makeDirectory path with
      | .ok t => (.ok (), t)
      -- Only a missing directory above is worth a second attempt.
      | .error .notFound =>
        match makeDirectoriesWithin depth t ((Path.parent? path).getD "") with
        | (.error e, t) => (.error e, t)
        | (.ok (), t) =>
          match t.makeDirectory path with
          | .ok t => (.ok (), t)
          | .error e => existing t e
      | .error e => existing t e

def makeDirectories (t : FileTree) (path : String) : Except FileError Unit × FileTree :=
  makeDirectoriesWithin ((Path.components path).length + 1) t path

def place (t : FileTree) (path : String) (bytes : List UInt8) : Except FileError FileTree := do
  checkPath path
  let names := Path.pieces path.toList
  let kept := (names.reverse.dropWhile String.isEmpty).reverse
  -- The idle name at the end asks for a directory there.
  let directory ← t.follow (t.start path) (kept.dropLast ++ ["."])
  match kept.getLast? with
  | none => throw .busy
  | some name =>
    if name == "." || name == ".." then throw .busy
    else if maxName < name.utf8ByteSize then throw .nameTooLong
    -- A slash behind the name asks for a directory, and a file is none.
    else if kept.length < names.length then throw .notDirectory
    else
      match t.entry? (directory ++ [name]) with
      | some .directory => throw .isDirectory
      | _ => return t.put (directory ++ [name]) (.file bytes)

def rename (t : FileTree) (source : Place) (path : String) : Except FileError FileTree :=
  match t.entry? source with
  | some (.file bytes) => (t.erase source).place path bytes
  | _ => .error .notFound

def removeFile (t : FileTree) (path : String) : FileTree :=
  match t.locate path with
  | .ok p =>
    match t.entry? p with
    | some (.file _) => t.erase p
    | _ => t
  | .error _ => t

def below (t : FileTree) (p : Place) : List (Place × Entry) :=
  let inside := t.entries.filterMap fun (q, e) =>
    if p.isPrefixOf q && p.length < q.length then some (q.drop p.length, e) else none
  inside.mergeSort fun a b => orderLists compare a.1 b.1 != .gt

def filesUnder (t : FileTree) (root : String) : Except FileError (List String) := do
  let p ← t.locate root
  match t.entry? p with
  | none => throw .notFound
  | some (.file _) => return [root]
  | some .directory =>
    return (t.below p).filterMap fun (names, e) =>
      match e with
      | .file _ => some (names.foldl Path.join root)
      | .directory => none

end FileTree

end WireSchema.Files
