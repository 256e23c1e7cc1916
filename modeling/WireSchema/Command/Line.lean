import WireSchema.Files.Output

namespace WireSchema.Command

-- Arguments are taken one after the other, and the first that is wrong or asks for help decides.
-- What is missing altogether shows only at the end.

inductive UsageError where
  | noSubcommand
  | unknownSubcommand (name : String)
  | unexpected (argument : String)
  | noValue (option : String)
  | valueForSwitch (option : String)
  | repeated (option : String)
  | missing (option : String)
deriving DecidableEq, Repr

def UsageError.message : UsageError → String
  | noSubcommand => "a subcommand is required: generate, check-compat or dump"
  | unknownSubcommand name => s!"unrecognized subcommand '{name}'"
  | unexpected argument => s!"unexpected argument '{argument}' found"
  | noValue option => s!"a value is required for '{option}' but none was supplied"
  | valueForSwitch option => s!"'{option}' takes no value"
  | repeated option => s!"the argument '{option}' cannot be used multiple times"
  | missing option => s!"the required argument '{option}' was not provided"

inductive Arity where
  | switch
  | path
  | paths
deriving DecidableEq, Repr

def Arity.split : Arity → String → List String
  | switch, _ => []
  | path, value => [value]
  | paths, value => (value.toList.splitOn ':').map String.ofList

structure OptionForm where
  long : String
  short : Option Char := none
  arity : Arity := .path
  repeatable : Bool := false
deriving DecidableEq, Repr

def helpForm : OptionForm :=
  { long := "help", short := some 'h', arity := .switch, repeatable := true }

def commonForms : List OptionForm :=
  [{ long := "verbose", short := some 'v', arity := .switch, repeatable := true }, helpForm]

def includeForm : OptionForm :=
  { long := "include", short := some 'I', arity := .paths, repeatable := true }

def inputForm : OptionForm :=
  { long := "input", short := some 'i' }

def headerForm : OptionForm :=
  { long := "header" }

def sourceForm : OptionForm :=
  { long := "source" }

def outputBaseForm : OptionForm :=
  { long := "output-base-dir", short := some 'o' }

def jsonForm : OptionForm :=
  { long := "json", arity := .switch }

inductive Item where
  | option (form : OptionForm) (value : String)
  | operand (text : String)
deriving DecidableEq, Repr

def wantsHelp (items : List Item) : Bool :=
  items.contains (.option helpForm "")

def looksLikeOption (argument : String) : Bool :=
  argument.toList.head? == some '-' && argument != "-"

-- Several short options may stand in one argument. The last one may take the rest as its value, or
-- need the next argument.
def readShort (forms : List OptionForm) (argument : String) :
    List Char → Except UsageError (List Item × Option OptionForm)
  | [] => .ok ([], none)
  | c :: rest =>
    match forms.find? (·.short == some c) with
    | none => .error (.unexpected argument)
    | some form =>
      match form.arity, rest with
      | .switch, rest =>
        -- What stands behind a request for help is not read.
        if form = helpForm then .ok ([.option form ""], none)
        else do
          let (items, needy) ← readShort forms argument rest
          return (.option form "" :: items, needy)
      | _, [] => .ok ([], some form)
      | _, '=' :: value => .ok ([.option form (String.ofList value)], none)
      | _, value => .ok ([.option form (String.ofList value)], none)

def readLong (forms : List OptionForm) (argument : String) (text : List Char) :
    Except UsageError (List Item × Option OptionForm) :=
  let name := String.ofList (text.takeWhile (· != '='))
  let attached := text.dropWhile (· != '=')
  match forms.find? (·.long == name) with
  | none => .error (.unexpected argument)
  | some form =>
    match form.arity, attached with
    | .switch, [] => .ok ([.option form ""], none)
    | .switch, _ :: _ => .error (.valueForSwitch form.long)
    | _, [] => .ok ([], some form)
    | _, _ :: value => .ok ([.option form (String.ofList value)], none)

def readArgument (forms : List OptionForm) (argument : String) :
    Except UsageError (List Item × Option OptionForm) :=
  match argument.toList with
  | '-' :: '-' :: rest => readLong forms argument rest
  | ['-'] => .ok ([.operand argument], none)
  | '-' :: rest => readShort forms argument rest
  | _ => .ok ([.operand argument], none)

def readItems (forms : List OptionForm) : List String → Except UsageError (List Item)
  | [] => .ok []
  | "--" :: operands => .ok (operands.map .operand)
  | argument :: rest => do
    let (items, needy) ← readArgument forms argument
    match needy, rest with
    | none, rest =>
      if wantsHelp items then return items else return items ++ (← readItems forms rest)
    | some form, [] => throw (.noValue form.long)
    | some form, value :: rest =>
      -- An option is never taken for the value of another.
      if looksLikeOption value then throw (.noValue form.long)
      else return items ++ .option form value :: (← readItems forms rest)

def operands (items : List Item) : List String :=
  items.filterMap fun i =>
    match i with
    | .operand text => some text
    | .option _ _ => none

def valuesOf (items : List Item) (form : OptionForm) : List String :=
  items.filterMap fun i =>
    match i with
    | .option f value => if f = form then some value else none
    | .operand _ => none

def checkPath (name path : String) : Except UsageError Unit :=
  if path.isEmpty then .error (.noValue name) else .ok ()

def checkItem (places : List String) (before : List Item) : Item → Except UsageError Unit
  | .option form value => do
    if !form.repeatable && !(valuesOf before form).isEmpty then throw (.repeated form.long)
    (form.arity.split value).forM (checkPath form.long)
  | .operand text =>
    match places[(operands before).length]? with
    | some place => checkPath place text
    | none => throw (.unexpected text)

def checkItems (places : List String) (before : List Item) : List Item → Except UsageError Unit
  | [] => .ok ()
  | item :: rest => do
    checkItem places before item
    checkItems places (before ++ [item]) rest

def value? (items : List Item) (form : OptionForm) : Option String :=
  (valuesOf items form).head?

def required (items : List Item) (form : OptionForm) : Except UsageError String :=
  match value? items form with
  | some value => .ok value
  | none => .error (.missing form.long)

def importDirs (items : List Item) (environment : Option String) :
    Except UsageError (List String) := do
  let given :=
    match valuesOf items includeForm with
    | [] => environment.toList
    | values => values
  let dirs := given.flatMap includeForm.arity.split
  dirs.forM (checkPath includeForm.long)
  return dirs

inductive Task where
  | generate (target : Files.Target) (importDirs : List String)
  | compare (old new : String) (importDirs : List String) (json : Bool)
  | dump (input : String) (importDirs : List String)
  | help
deriving DecidableEq, Repr

def readGenerate (items : List Item) (environment : Option String) : Except UsageError Task := do
  let input ← required items inputForm
  let header ← required items headerForm
  let source ← required items sourceForm
  let outputBase := value? items outputBaseForm
  return .generate { input, header, source, outputBase } (← importDirs items environment)

def readCompare (items : List Item) (environment : Option String) : Except UsageError Task := do
  match operands items with
  | [] => throw (.missing "OLD")
  | [_] => throw (.missing "NEW")
  | old :: new :: _ =>
    let json := (value? items jsonForm).isSome
    return .compare old new (← importDirs items environment) json

def readDump (items : List Item) (environment : Option String) : Except UsageError Task := do
  let input ← required items inputForm
  return .dump input (← importDirs items environment)

structure Subcommand where
  forms : List OptionForm
  places : List String := []
  read : List Item → Option String → Except UsageError Task

def subcommand? : String → Option Subcommand
  | "generate" => some {
      forms := commonForms ++ [inputForm, headerForm, sourceForm, outputBaseForm, includeForm]
      read := readGenerate }
  | "check-compat" => some {
      forms := commonForms ++ [includeForm, jsonForm]
      places := ["OLD", "NEW"]
      read := readCompare }
  | "dump" => some {
      forms := commonForms ++ [inputForm, includeForm]
      read := readDump }
  | _ => none

def readSubcommand (name : String) (arguments : List String) (environment : Option String) :
    Except UsageError Task := do
  match subcommand? name with
  | none => throw (.unknownSubcommand name)
  | some command =>
    let items ← readItems command.forms arguments
    checkItems command.places [] items
    if wantsHelp items then return .help else command.read items environment

def readHelp : List String → Except UsageError Task
  | [] => .ok .help
  | name :: rest =>
    if name != "help" && (subcommand? name).isNone then .error (.unknownSubcommand name)
    else
      match rest with
      | [] => .ok .help
      | inner :: _ => .error (.unknownSubcommand inner)

def readLine (environment : Option String) : List String → Except UsageError Task
  | [] => .error .noSubcommand
  | argument :: rest =>
    if looksLikeOption argument then do
      if argument == "--" then throw .noSubcommand
      let (items, _) ← readArgument commonForms argument
      if wantsHelp items then return .help else readLine environment rest
    else if argument == "help" then readHelp rest
    else readSubcommand argument rest environment

end WireSchema.Command
