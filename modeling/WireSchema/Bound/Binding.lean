import WireSchema.Bound.SettingBinding
import WireSchema.Bound.StructBinding

namespace WireSchema.Bound

open Schema (Diagnostic Location OptionDef OptionDefaults ParameterDef Report Spec)

def bindEach {α β : Type} (bind : α → Report (Option β)) : List α → Report (List β)
  | [] => return []
  | a :: rest => do
    let b ← bind a
    let bs ← bindEach bind rest
    return b.toList ++ bs

def bindNamed {α β : Type} (kind : String) (nameOf : α → String) (locationOf : α → Location)
    (bind : α → Report (Option β)) (seen : List String) : List α → Report (List β)
  | [] => return []
  | a :: rest => do
    let b ←
      if seen.contains (nameOf a) then
        Report.reject (locationOf a) (.duplicateSymbol kind (nameOf a) kind)
      else bind a
    let bs ← bindNamed kind nameOf locationOf bind (nameOf a :: seen) rest
    return b.toList ++ bs

def bindParameters (parameters : List ParameterDef) : Report (List Parameter) :=
  bindNamed "server parameter" (·.name) (·.location) bindParameter [] parameters

def bindOptions (defaults : Option OptionDefaults) (options : List OptionDef) :
    Report (List OptionEntry) :=
  bindNamed "config option" (·.name) (·.location) (bindOption defaults) [] options

-- Imported definitions are resolved against, but not bound themselves.
def bindAll (spec : Spec) : Report Idl := do
  let symbols := spec.symbols
  let defaults := spec.globals.bind (·.options)
  let globals : Globals :=
    match spec.globals with
    | some g =>
      { rustModule := g.rustModule, uses := g.uses
        initializer := g.options.bind (·.initializer) }
    | none => {}
  (symbols.types.filter (!·.imported)).forM checkType
  let enums ← bindEach bindEnum (symbols.enums.filter (!·.imported))
  let structs ← bindEach (bindStruct symbols · false) (symbols.structs.filter (!·.imported))
  let commands ← bindEach (bindCommand symbols) (symbols.commands.filter (!·.base.imported))
  let parameters ← bindParameters spec.parameters
  let options ← bindOptions defaults spec.options
  return { globals, enums, structs := structs ++ commands, parameters, options }

def bind (spec : Spec) : Except (List Diagnostic) Idl :=
  (bindAll spec).toExcept

end WireSchema.Bound
