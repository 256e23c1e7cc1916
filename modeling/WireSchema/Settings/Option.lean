import WireSchema.Bson.Value
import WireSchema.Record.Fault
import WireSchema.Settings.Kind
import WireSchema.Text.Json

namespace WireSchema.Settings

open Record (Fault)

structure Sources where
  commandLine : Bool
  ini : Bool
  yaml : Bool
deriving DecidableEq, Repr

namespace Sources

def all : Sources := ⟨true, true, true⟩

def onlyCommandLine : Sources := ⟨true, false, false⟩

def onlyIni : Sources := ⟨false, true, false⟩

def onlyYaml : Sources := ⟨false, false, true⟩

def union (s t : Sources) : Sources :=
  ⟨s.commandLine || t.commandLine, s.ini || t.ini, s.yaml || t.yaml⟩

end Sources

structure StartupOption where
  dottedName : String
  singleName : String
  type : OptionType
  description : String
  deprecatedNames : List String := []
  deprecatedSingleNames : List String := []
  sources : Sources := .all
  hidden : Bool := false
  redacted : Bool := false
  default : Option Bson.Value := none
  implicit : Option Bson.Value := none
  composing : Bool := false
  -- A last position of -1 is open.
  positional : Option (Int × Int) := none
  requires : List String := []
  conflicts : List String := []
  constraints : List (Bson.Value → Except Fault Unit) := []

namespace StartupOption

def isCalled (o : StartupOption) (name : String) : Bool :=
  o.dottedName == name || o.deprecatedNames.contains name

def check (o : StartupOption) (value : Bson.Value) : Except Fault Unit := do
  if value.kind != o.type.kind then throw (.option (.wrongKind o.dottedName value.kind))
  o.constraints.forM (· value)

def toJson (value : Bson.Value → Json) (o : StartupOption) : Json :=
  .record [("dotted", .text o.dottedName), ("single", .text o.singleName),
    ("type", .text o.type.name), ("element_types", .texts [o.type.kind.name]),
    ("description", .text o.description), ("deprecated", .texts o.deprecatedNames),
    ("deprecated_single", .texts o.deprecatedSingleNames),
    ("sources", .list [.bool o.sources.commandLine, .bool o.sources.ini, .bool o.sources.yaml]),
    ("hidden", .bool o.hidden), ("redact", .bool o.redacted),
    ("default", .ofOption value o.default), ("implicit", .ofOption value o.implicit),
    ("composing", .bool o.composing),
    ("positional", .ofOption (fun (a, b) => .list [.number a, .number b]) o.positional),
    ("requires", .texts o.requires), ("conflicts", .texts o.conflicts)]

end StartupOption

inductive OptionSection where
  | mk (name : String) (options : List StartupOption) (sections : List OptionSection)

namespace OptionSection

def named (name : String) : OptionSection :=
  .mk name [] []

instance : Inhabited OptionSection := ⟨named ""⟩

def name : OptionSection → String
  | mk name _ _ => name

def options : OptionSection → List StartupOption
  | mk _ options _ => options

def sections : OptionSection → List OptionSection
  | mk _ _ sections => sections

mutual

def allOptions : OptionSection → List StartupOption
  | mk _ options sections => options ++ allOptionsOf sections

def allOptionsOf : List OptionSection → List StartupOption
  | [] => []
  | s :: rest => s.allOptions ++ allOptionsOf rest

end

def find? (s : OptionSection) (name : String) : Option StartupOption :=
  s.allOptions.find? (·.isCalled name)

def addOption (s : OptionSection) (o : StartupOption) : OptionSection :=
  .mk s.name (s.options ++ [o]) s.sections

def addSection (s inner : OptionSection) : Except Fault OptionSection := do
  inner.allOptions.forM fun o =>
    if (s.find? o.dottedName).isSome then
      throw (Fault.option (.conflictingName o.dottedName))
    else return ()
  return .mk s.name s.options (s.sections ++ [inner])

end OptionSection

end WireSchema.Settings
