import WireSchema.Settings.Parameter
import WireSchema.Text.NameMap

namespace WireSchema.Settings

open Bson (Document)
open Record (Fault)

structure Registry where
  parameters : NameMap Parameter := {}
  aliases : NameMap String := {}

namespace Registry

def empty : Registry := {}

def isTaken (r : Registry) (name : String) : Bool :=
  r.parameters.contains name || r.aliases.contains name

def add (r : Registry) (p : Parameter) : Except Fault Registry :=
  if r.isTaken p.name then .error (.parameter (.duplicate p.name))
  else .ok { r with parameters := r.parameters.insert p.name p }

def addAlias (r : Registry) (given name : String) : Except Fault Registry :=
  if !r.parameters.contains name then .error (.parameter (.unknownTarget given name))
  else if r.isTaken given then .error (.parameter (.duplicate given))
  else .ok { r with aliases := r.aliases.insert given name }

def canonical (r : Registry) (name : String) : String :=
  (r.aliases.get? name).getD name

def get? (r : Registry) (name : String) : Option Parameter :=
  r.parameters.get? (r.canonical name)

-- The registry also changes when only the update hook failed.
def setText (r : Registry) (name text : String) : Except Fault Unit × Registry :=
  match r.get? name with
  | none => (.error (.parameter (.unknown name)), r)
  | some p =>
    let (result, p) := p.setText text
    (result, { r with parameters := r.parameters.insert (r.canonical name) p })

def elements (r : Registry) : Document :=
  r.parameters.values.flatMap (·.elements)

def size (r : Registry) : Nat :=
  r.parameters.size

end Registry

end WireSchema.Settings
