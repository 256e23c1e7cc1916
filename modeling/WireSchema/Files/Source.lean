import WireSchema.Files.Tree
import WireSchema.Schema.Import

namespace WireSchema.Files

open Schema (Diagnostic Library Report Spec)

-- A file counts as seen before only under the same spelling of its path, and spellings are bounded
-- by the length of paths, so every schema has an end.

def importCandidates (importDirs : List String) (base imported : String) : List String :=
  ((Path.parent? base).toList ++ importDirs).map (Path.join · imported)

def FileTree.library (t : FileTree) (importDirs : List String) : Library where
  resolve base imported := (importCandidates importDirs base imported).find? t.isFile
  read path :=
    match t.readText path with
    | .ok text => .ok text
    | .error e => .error e.message

def FileTree.size (t : FileTree) : Nat :=
  (t.entries.map fun (_, e) =>
    match e with
    | .file bytes => bytes.length
    | .directory => 0).foldl (· + ·) 0

-- A file asks for fewer imports than it has bytes, and is asked for under one of at most this many
-- spellings.
def FileTree.importBound (t : FileTree) (text : String) : Nat :=
  text.utf8ByteSize + t.size * Nat.pow 256 (maxPath + 1)

def FileTree.parseText (t : FileTree) (importDirs : List String) (text path : String) :
    Except (List Diagnostic) Spec :=
  (Schema.follow (t.importBound text) (t.library importDirs) text path).toExcept

end WireSchema.Files
