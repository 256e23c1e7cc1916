import WireSchema.Bound.FieldBinding

namespace WireSchema.Bound

open Schema (Report OptionDef OptionDefaults ParameterDef)

-- Case and repetition do not matter.
def setAtOf? (names : List String) : Option Settings.SetAt :=
  let lowered := names.map fun n => String.ofList (n.toList.flatMap Text.toLowerCase)
  let known := ["startup", "runtime", "cluster"]
  if lowered.isEmpty || !lowered.all known.contains then none
  else
    match lowered.contains "startup", lowered.contains "runtime", lowered.contains "cluster" with
    | true, false, false => some .startupOnly
    | false, true, false => some .runtimeOnly
    | true, true, false => some .startupAndRuntime
    | false, false, true => some .clusterWide
    | _, _, _ => none

-- A parameter lives in a variable or behind a pair of hooks, never both.
def checkParameterStorage (p : ParameterDef) : Report Unit := do
  let hasStorage := p.rustVariable.isSome
  let hasHooks := p.fromString.isSome || p.appendBson.isSome
  if hasStorage && hasHooks then Report.complain p.location (.storageAndHooks p.name)
  else if !hasStorage && !hasHooks then
    Report.complain p.location (.neitherStorageNorHooks p.name)
  else if hasHooks then
    if p.fromString.isNone || p.appendBson.isNone then
      Report.complain p.location (.onlyOneHook p.name)
    if p.default.isSome || p.validator.isSome || p.onUpdate.isSome then
      Report.complain p.location (.hooksWithStorageEntries p.name)
  else if p.rustType.isNone && p.default.any (·.code.isSome) then
    Report.complain p.location (.expressionWithoutType p.name)

def bindParameter (p : ParameterDef) : Report (Option Parameter) := do
  let r := do
    let setAt := setAtOf? p.setAt
    if setAt.isNone then Report.complain p.location (.badSetAt p.name p.setAt)
    checkParameterStorage p
    if p.rustType.isSome && p.rustVariable.isNone then
      Report.complain p.location (.typeWithoutVariable p.name)
    return setAt.map fun setAt =>
      { name := p.name, description := p.description, setAt, rustType := p.rustType
        rustVariable := p.rustVariable, condition := p.condition
        deprecatedNames := p.deprecatedNames, redact := p.redact, testOnly := p.testOnly
        default := p.default, validator := bindValidator p.validator, onUpdate := p.onUpdate
        fromString := p.fromString, appendBson := p.appendBson : Parameter }
  return (← Report.ifClean r).join

def trimmedInt? (text : List Char) : Option Int :=
  (Integer.int32? (Text.trim (String.ofList text))).map Int32.toInt

-- `N`, `N-M`, or `N-` without end, which is written as minus one.
def positionalOf? (text : String) : Option (Int × Int) :=
  let cs := text.toList
  let start := cs.takeWhile (· != '-')
  match cs.dropWhile (· != '-') with
  | [] => (trimmedInt? cs).map fun n => (n, n)
  | [_] => (trimmedInt? start).map fun n => (n, -1)
  | _ :: stop => do
    let a ← trimmedInt? start
    let b ← trimmedInt? stop
    if a ≤ b then some (a, b) else none

def composingOf? (behavior : Option String) : Option Bool :=
  match behavior with
  | none => some false
  | some "overwrite" => some false
  | some "append" => some true
  | some _ => none

def optionSources : List String :=
  ["cli", "ini", "yaml"]

def checkSources (o : OptionDef) : List String → Report Unit
  | [] => return ()
  | source :: rest => do
    if !optionSources.contains source then
      Report.complain o.location (.badSource o.name source)
    checkSources o rest

def bindOption (defaults : Option OptionDefaults) (o : OptionDef) :
    Report (Option OptionEntry) := do
  let r := do
    let typeName := o.argType.getD ""
    let type := Settings.OptionType.ofName? typeName
    if type.isNone then Report.complain o.location (.badOptionType o.name typeName)
    let sources :=
      if o.source.isEmpty then (defaults.map (·.source)).getD [] else o.source
    checkSources o sources
    let composing := composingOf? o.duplicates
    if composing.isNone then
      Report.complain o.location (.badDuplicates o.name (o.duplicates.getD ""))
    let positional := o.positional.bind positionalOf?
    if o.positional.isSome && positional.isNone then
      Report.complain o.location (.badPositional o.name (o.positional.getD ""))
    if o.rustType.isSome != o.rustVariable.isSome then
      Report.complain o.location (.halfStorage o.name)
    let longName := o.shortName.getD o.name
    return type.map fun type =>
      { name := o.name
        singleName := (o.singleName.map fun s => longName ++ "," ++ s).getD longName
        deprecatedNames := o.deprecatedNames, deprecatedShortNames := o.deprecatedShortNames
        description := o.description.getD ""
        sectionName := o.sectionName.or (defaults.bind (·.sectionName)), type
        rustType := o.rustType, rustVariable := o.rustVariable, condition := o.condition
        conflicts := o.conflicts, requires := o.requires, hidden := o.hidden, redact := o.redact
        default := o.default, implicit := o.implicit, sources
        composing := composing.getD false, positional
        validator := bindValidator o.validator : OptionEntry }
  return (← Report.ifClean r).join

end WireSchema.Bound
