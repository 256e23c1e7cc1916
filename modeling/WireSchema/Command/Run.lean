import WireSchema.Command.Line
import WireSchema.Files.Compilation
import WireSchema.Files.Evolution
import WireSchema.Schema.Dump

namespace WireSchema.Command

open Evolution (Incompatibility)
open Files (FileTree)

structure Outcome where
  exitCode : Nat := 0
  output : String := ""
  errors : String := ""
  tree : FileTree

def report (json : Bool) (found : List Incompatibility) : String :=
  if json then (Evolution.reportJson found).pretty ++ "\n" else Evolution.reportText found

def runGenerate (t : FileTree) (target : Files.Target) (importDirs : List String) : Outcome :=
  match t.compile importDirs target with
  | .error e => { exitCode := 1, errors := e.message ++ "\n", tree := t }
  | .ok code =>
    match t.writeGenerated target code with
    | (.error e, t) =>
      { exitCode := 1, errors := (Files.CompileError.file e).message ++ "\n", tree := t }
    | (.ok (), t) =>
      { output := s!"Generated {target.headerPath} and {target.sourcePath}\n", tree := t }

def runCompare (t : FileTree) (old new : String) (importDirs : List String) (json : Bool) :
    Outcome :=
  match t.checkAll importDirs old new with
  | .ok found =>
    { exitCode := if found.isEmpty then 0 else 1, output := report json found, tree := t }
  | .error abort =>
    let output :=
      match abort with
      | .unresolved stopped => report json stopped.found
      | _ => ""
    { exitCode := 1, output, errors := s!"error: {abort.message}\n", tree := t }

def runDump (t : FileTree) (input : String) (importDirs : List String) : Outcome :=
  match t.parseFile importDirs input with
  | .error e => { exitCode := 1, errors := e.message ++ "\n", tree := t }
  | .ok spec => { output := spec.toJson.pretty ++ "\n", tree := t }

def usage : String :=
  "Usage: bidlc [-v] <COMMAND>\n\n" ++
  "  generate      -i FILE --header FILE --source FILE [-o DIR] [-I DIRS]\n" ++
  "  check-compat  OLD NEW [-I DIRS] [--json]\n" ++
  "  dump          -i FILE [-I DIRS]\n"

def Task.run (t : FileTree) : Task → Outcome
  | .generate target importDirs => runGenerate t target importDirs
  | .compare old new importDirs json => runCompare t old new importDirs json
  | .dump input importDirs => runDump t input importDirs
  | .help => { output := usage, tree := t }

def run (t : FileTree) (environment : Option String) (arguments : List String) : Outcome :=
  match readLine environment arguments with
  | .error e => { exitCode := 2, errors := s!"error: {e.message}\n\n{usage}", tree := t }
  | .ok task => task.run t

end WireSchema.Command
