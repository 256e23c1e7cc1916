import WireSchema.Emit.Encoder
import WireSchema.Emit.Setting
import WireSchema.Files.Path

namespace WireSchema.Emit

open WireSchema.Bound (Idl Struct)

structure Generated where
  header : String
  source : String
deriving DecidableEq, Repr

def banner (inputName : String) : List Code :=
  [.line s!"// Generated by bidlc from {inputName}. Do not edit.", .gap]

def flavours (idl : Idl) : Except EmitError (List (Flavour × Struct)) :=
  idl.structs.mapM fun s => (Flavour.of s).map (·, s)

def modulePath (idl : Idl) : List String :=
  ((idl.globals.rustModule.getD "").splitOn "::").filter (!·.isEmpty)

def insideModules (modules : List String) (body : List Code) : List Code :=
  modules.foldr (fun name inner => [.braces s!"pub mod {name}" inner]) body

def header (idl : Idl) (inputName : String) : Except EmitError String := do
  let enums ← idl.enums.mapM enumDeclaration
  let structs ← (← flavours idl).mapM fun (k, s) => structDeclaration k s
  let uses := idl.globals.uses.map fun used => Code.line s!"use {used};"
  return Code.text <|
    banner inputName ++ [.line "use bidl::prelude::*;"] ++ uses ++ [.gap] ++ enums.flatten ++
      structs.flatten

def source (idl : Idl) (inputName includePath : String) : Except EmitError String := do
  let structs ← (← flavours idl).mapM fun (k, s) => structDefinition k s
  let included := textLiteral (Path.withSlashes includePath)
  let body := [.line s!"include!({included});", .gap] ++ idl.enums.flatMap enumDefinition ++
    structs.flatten ++ parameterCode idl.parameters inputName ++ optionCode idl inputName
  return Code.text (banner inputName ++ insideModules (modulePath idl) body)

def generate (idl : Idl) (inputName includePath : String) : Except EmitError Generated := do
  let header ← header idl inputName
  let source ← source idl inputName includePath
  return { header, source }

end WireSchema.Emit
