import WireSchema.Bound.Binding
import WireSchema.Files.Output
import WireSchema.Files.Source

namespace WireSchema.Files

open Schema (Diagnostic Spec)

inductive CompileError where
  | file (cause : FileError)
  | schema (faults : List Diagnostic)
  | emission (cause : Emit.EmitError)

def CompileError.message : CompileError → String
  | file cause => "I/O error: " ++ cause.message
  | schema faults => Schema.describeAll faults
  | emission cause => cause.message

def FileTree.parseFile (t : FileTree) (importDirs : List String) (path : String) :
    Except CompileError Spec :=
  match t.readText path with
  | .error e => .error (.file e)
  | .ok text => (t.parseText importDirs text path).mapError .schema

def generateFor (target : Target) (spec : Spec) : Except CompileError Emit.Generated := do
  let idl ← (Bound.bind spec).mapError CompileError.schema
  (Emit.generate idl target.inputName target.includePath).mapError .emission

def FileTree.compile (t : FileTree) (importDirs : List String) (target : Target) :
    Except CompileError Emit.Generated := do
  let spec ← t.parseFile importDirs target.input
  generateFor target spec

end WireSchema.Files
