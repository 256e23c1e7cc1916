import WireSchema.Schema.Reading

namespace WireSchema.Schema

-- Imports are followed breadth first, each file is merged once, and the root file never again.

structure Library where
  resolve : (base imported : String) → Option String
  read : String → Except String String

def Library.ofTexts (texts : List (String × String)) : Library where
  resolve _ imported := if (texts.lookup imported).isSome then some imported else none
  read file :=
    match texts.lookup file with
    | some text => .ok text
    | none => .error file

structure Request where
  base : String
  imported : String
  location : Location
deriving DecidableEq, Repr

def Spec.requests (spec : Spec) (file : String) : List Request :=
  match spec.imports with
  | some imports => imports.files.map fun imported => ⟨file, imported, imports.location⟩
  | none => []

structure Closure where
  symbols : SymbolTable
  visited : List String
  resolved : List String
  pending : List Request

def Closure.step (library : Library) (c : Closure) (request : Request) (rest : List Request) :
    Report Closure := do
  match library.resolve request.base request.imported with
  | none =>
    Report.complain request.location (.importNotFound request.imported)
    return { c with pending := rest }
  | some path =>
    if c.visited.contains path then return { c with pending := rest } else
    -- What cannot be read counts as visited, so it is reported once.
    let visited := path :: c.visited
    match library.read path with
    | .error reason =>
      Report.complain request.location (.importFailed request.imported reason)
      return { c with visited, pending := rest }
    | .ok text =>
      let imported ← parseText text path
      let symbols ← c.symbols.addImported imported.symbols
      return {
        symbols, visited
        resolved := c.resolved ++ [path]
        pending := rest ++ imported.requests path }

def Closure.run (library : Library) : Nat → Closure → Report Closure
  | 0, c => return c
  | fuel + 1, c =>
    match c.pending with
    | [] => return c
    | request :: rest => do
      let c ← c.step library request rest
      c.run library fuel

def Closure.start (spec : Spec) (file : String) : Closure :=
  { symbols := spec.symbols, visited := [file], resolved := [], pending := spec.requests file }

def Spec.close (spec : Spec) (library : Library) (fuel : Nat) (file : String) : Report Spec := do
  let c ← (Closure.start spec file).run library fuel
  return { spec with
    symbols := c.symbols
    imports := spec.imports.map fun imports =>
      { imports with resolved := c.resolved, dependencies := c.resolved } }

def follow (fuel : Nat) (library : Library) (text file : String) : Report Spec := do
  let spec ← parseText text file
  spec.close library fuel file

def importCount (texts : List (String × String)) (text file : String) : Nat :=
  ((parseText text file).value.requests file).length +
    (texts.map fun (name, t) => ((parseText t name).value.requests name).length).foldl (· + ·) 0

def parse (texts : List (String × String)) (text file : String) :
    Except (List Diagnostic) Spec :=
  (follow (importCount texts text file) (.ofTexts texts) text file).toExcept

end WireSchema.Schema
