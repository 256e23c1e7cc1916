import WireSchema.Emit.File
import WireSchema.Files.Tree

namespace WireSchema.Files

structure Target where
  input : String
  header : String
  source : String
  outputBase : Option String := none
deriving DecidableEq, Repr

namespace Target

def outputPath (t : Target) (path : String) : String :=
  match t.outputBase with
  | some base => Path.join base path
  | none => path

def headerPath (t : Target) : String :=
  t.outputPath t.header

def sourcePath (t : Target) : String :=
  t.outputPath t.source

def includePath (t : Target) : String :=
  Path.withSlashes (Path.relative ((Path.parent? t.sourcePath).getD "") t.headerPath)

def inputName (t : Target) : String :=
  (Path.fileName? t.input).getD t.input

end Target

def stagingDirectory (path : String) : String :=
  match Path.parent? path with
  | some parent => if parent.isEmpty then "." else parent
  | none => "."

-- What comes of asking for a temporary file in a directory: its name, or why there is none.
abbrev Temporaries := FileTree → Place → Except FileError String

namespace FileTree

def stage (temporary : Temporaries) (t : FileTree) (path : String) (bytes : List UInt8) :
    Except FileError Place × FileTree :=
  match t.makeDirectories (stagingDirectory path) with
  | (.error e, t) => (.error e, t)
  | (.ok (), t) =>
    match t.locate (stagingDirectory path) with
    | .error e => (.error e, t)
    | .ok directory =>
      match temporary t directory with
      | .error e => (.error e, t)
      | .ok name => (.ok (directory ++ [name]), t.put (directory ++ [name]) (.file bytes))

-- Both files are staged before either is moved to its path. If the second cannot be moved, the
-- first is removed; a temporary file that was not moved vanishes.
def writeBoth (temporary : Temporaries) (t : FileTree) (headerPath sourcePath : String)
    (code : Emit.Generated) : Except FileError Unit × FileTree :=
  match t.stage temporary headerPath (Bson.textBytes code.header) with
  | (.error e, t) => (.error e, t)
  | (.ok header, t) =>
    match t.stage temporary sourcePath (Bson.textBytes code.source) with
    | (.error e, t) => (.error e, t.erase header)
    | (.ok source, t) =>
      match t.rename header headerPath with
      | .error e => (.error e, (t.erase header).erase source)
      | .ok t =>
        match t.rename source sourcePath with
        | .error e => (.error e, (t.removeFile headerPath).erase source)
        | .ok t => (.ok (), t)

def unusedName (t : FileTree) (paths : List String) : String :=
  let names := paths ++ t.home ++ t.entries.flatMap (·.1)
  String.ofList (List.replicate (names.foldl (fun n name => max n name.length) 0 + 1) '~')

def writeGenerated (t : FileTree) (target : Target) (code : Emit.Generated) :
    Except FileError Unit × FileTree :=
  t.writeBoth (fun t _ => .ok (t.unusedName [target.headerPath, target.sourcePath]))
    target.headerPath target.sourcePath code

end FileTree

end WireSchema.Files
