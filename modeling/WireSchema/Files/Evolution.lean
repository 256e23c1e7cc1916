import WireSchema.Evolution.Check
import WireSchema.Files.Source

namespace WireSchema.Files

open Evolution (Incompatibility SchemaFile Stopped)
open Schema (Diagnostic)

inductive Abort where
  | unreadable (path : String) (cause : FileError)
  | unlistable (root : String) (cause : FileError)
  | schema (path : String) (faults : List Diagnostic)
  | unresolved (stopped : Stopped)

def Abort.message : Abort → String
  | unreadable path cause => s!"Failed to read {path}: {cause.message}"
  | unlistable root cause =>
    s!"Failed to scan directory: IO error for operation on {root}: {cause.message}"
  | schema path faults => s!"{path} has schema errors:\n" ++ Schema.describeAll faults
  | unresolved stopped => stopped.cause.message

def FileTree.readSchema (t : FileTree) (importDirs : List String) (path : String) :
    Except Abort SchemaFile :=
  match t.readText path with
  | .error e => .error (.unreadable path e)
  | .ok text =>
    match t.parseText importDirs text path with
    | .ok spec => .ok { path, spec }
    | .error faults => .error (.schema path faults)

def FileTree.readSchemas (t : FileTree) (importDirs : List String) (root : String) :
    Except Abort (List SchemaFile) := do
  let files ← (t.filesUnder root).mapError (Abort.unlistable root)
  (files.filter fun f => Path.extension? f == some "idl").mapM (t.readSchema importDirs)

def FileTree.readBoth (t : FileTree) (importDirs : List String) (old new : String) :
    Except Abort (List SchemaFile × List SchemaFile) := do
  let oldFiles ← t.readSchemas importDirs old
  let newFiles ← t.readSchemas importDirs new
  return (oldFiles, newFiles)

def FileTree.checkCommands (t : FileTree) (importDirs : List String) (old new : String) :
    Except Abort (List Incompatibility) := do
  let (oldFiles, newFiles) ← t.readBoth importDirs old new
  (Evolution.checkCommands oldFiles newFiles).mapError .unresolved

def FileTree.checkErrorReply (t : FileTree) (importDirs : List String) (old new : String) :
    Except Abort (List Incompatibility) := do
  let (oldFiles, newFiles) ← t.readBoth importDirs old new
  return Evolution.checkErrorReply old new oldFiles newFiles

def FileTree.checkAll (t : FileTree) (importDirs : List String) (old new : String) :
    Except Abort (List Incompatibility) := do
  let (oldFiles, newFiles) ← t.readBoth importDirs old new
  (Evolution.checkAll old new oldFiles newFiles).mapError .unresolved

end WireSchema.Files
