import WireSchema.Settings.Option
import WireSchema.Text.NameMap

namespace WireSchema.Settings

open Record (Fault)

structure Environment where
  values : NameMap Bson.Value := {}

namespace Environment

def empty : Environment := {}

def get? (e : Environment) (name : String) : Option Bson.Value :=
  e.values.get? name

def contains (e : Environment) (name : String) : Bool :=
  e.values.contains name

def set (e : Environment) (name : String) (value : Bson.Value) : Environment :=
  ⟨e.values.insert name value⟩

def erase (e : Environment) (name : String) : Environment :=
  ⟨e.values.erase name⟩

def migrate (e : Environment) (o : StartupOption) : Environment :=
  match o.deprecatedNames.findSome? fun old => (e.get? old).map (old, ·) with
  -- Any further old name stays, and is then no option's.
  | some (old, value) => (e.erase old).set o.dottedName value
  | none => e

def fillDefault (e : Environment) (o : StartupOption) : Environment :=
  match e.contains o.dottedName, o.default with
  | false, some value => e.set o.dottedName value
  | _, _ => e

def complete (e : Environment) (options : List StartupOption) : Environment :=
  options.foldl (fun e o => (e.migrate o).fillDefault o) e

def checkNames (e : Environment) (options : List StartupOption) : Except Fault Unit :=
  e.values.names.forM fun name =>
    if options.any (·.dottedName == name) then .ok ()
    else .error (.option (.unrecognized name))

def checkOption (e : Environment) (o : StartupOption) : Except Fault Unit :=
  match e.get? o.dottedName with
  | none => .ok ()
  | some value => do
    o.check value
    o.requires.forM fun required =>
      if e.contains required then .ok ()
      else .error (Fault.option (.requires o.dottedName required))
    o.conflicts.forM fun other =>
      if e.contains other then .error (Fault.option (.notAllowedWith o.dottedName other))
      else .ok ()

-- The completed environment comes back in any case.
def validate (e : Environment) (s : OptionSection) : Except Fault Unit × Environment :=
  let options := s.allOptions
  let e := e.complete options
  (do
    e.checkNames options
    options.forM e.checkOption,
   e)

end Environment

end WireSchema.Settings
