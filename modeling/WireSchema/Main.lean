import WireSchema.Command.Run
import WireSchema.Files.Change

namespace WireSchema.Command

open Files (Entry FileTree Place)

def absolutePath (p : Place) : String :=
  "/" ++ "/".intercalate p

def probe (p : Place) : IO (Option Entry) := do
  match ← (IO.FS.realPath (absolutePath p)).toBaseIO with
  | .error _ => return none
  | .ok real =>
    if ← real.isDir then return some .directory
    else return some (.file (← IO.FS.readBinFile real).toList)

def gatherPlace (t : FileTree) (p : Place) : IO FileTree := do
  if (t.entry? p).isSome then return t
  match ← probe p with
  | some e => return t.put p e
  | none => return t

def gatherPath (t : FileTree) (path : String) : IO FileTree := do
  let .ok () := FileTree.checkPath path | return t
  let step := fun ((t, here) : FileTree × Place) (name : String) => do
    if Path.isIdle name then return (t, here)
    else if name == ".." then return (t, here.dropLast)
    else return (← gatherPlace t (here ++ [name]), here ++ [name])
  return (← (Path.pieces path.toList).foldlM step (t, t.start path)).1

partial def gatherSchema (importDirs : List String) (t : FileTree) (seen : List String)
    (path : String) : IO (FileTree × List String) := do
  if seen.contains path then return (t, seen)
  let t ← gatherPath t path
  let .ok text := t.readText path | return (t, path :: seen)
  let follow := fun ((t, seen) : FileTree × List String) (request : Schema.Request) => do
    let candidates := Files.importCandidates importDirs path request.imported
    let t ← candidates.foldlM gatherPath t
    match candidates.find? t.isFile with
    | some found => gatherSchema importDirs t seen found
    | none => return (t, seen)
  ((Schema.parseText text path).value.requests path).foldlM follow (t, path :: seen)

-- Links are not followed.
partial def gatherBelow (t : FileTree) (p : Place) : IO FileTree := do
  let directory ← IO.FS.realPath (absolutePath p)
  (← directory.readDir).foldlM (fun t entry => do
    let q := p ++ [entry.fileName]
    match (← entry.path.symlinkMetadata).type with
    | .dir => gatherBelow (t.put q .directory) q
    | .file => if Path.extension? entry.fileName == some "idl" then gatherPlace t q else return t
    | _ => return t) t

def gatherRoot (importDirs : List String) (t : FileTree) (root : String) : IO FileTree := do
  let t ← gatherPath t root
  let .ok p := t.locate root | return t
  let t ← if t.isDirectory root then gatherBelow t p else pure t
  let .ok files := t.filesUnder root | return t
  return (← files.foldlM (fun (t, seen) f => gatherSchema importDirs t seen f) (t, [])).1

def gatherFor (t : FileTree) : Task → IO FileTree
  | .generate target importDirs => do
    let (t, _) ← gatherSchema importDirs t [] target.input
    [target.headerPath, target.sourcePath].foldlM gatherPath t
  | .compare old new importDirs _ => [old, new].foldlM (gatherRoot importDirs) t
  | .dump input importDirs => return (← gatherSchema importDirs t [] input).1
  | .help => return t

def gather (environment : Option String) (arguments : List String) : IO FileTree := do
  let here := (← IO.currentDir).toString
  let t ← gatherPath {} here
  let t := { t with home := (Path.pieces here.toList).filter (!·.isEmpty) }
  match readLine environment arguments with
  | .ok task => gatherFor t task
  | .error _ => return t

def store (before after : FileTree) : IO Unit := do
  for p in before.vanished after do
    IO.FS.removeFile (absolutePath p)
  -- A directory stands before its content, so each can be made in turn.
  for (p, e) in before.changesBelow after [] do
    let path := absolutePath p
    match e with
    | .directory => IO.FS.createDir path
    | .file bytes =>
      let staged := path ++ ".partial"
      IO.FS.writeBinFile staged ⟨bytes.toArray⟩
      IO.FS.rename staged path

end WireSchema.Command

open WireSchema in
def main (arguments : List String) : IO UInt32 := do
  let environment ← IO.getEnv "BIDL_INCLUDE"
  let before ← Command.gather environment arguments
  let outcome := Command.run before environment arguments
  Command.store before outcome.tree
  IO.print outcome.output
  IO.eprint outcome.errors
  return UInt32.ofNat outcome.exitCode
