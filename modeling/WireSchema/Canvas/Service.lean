import WireSchema.Settings.Environment
import WireSchema.Settings.Registry

namespace WireSchema.Canvas

open Record (Fault)
open Settings (Bound Environment OptionSection Parameter Registry Rule StartupOption Stored)

structure Service where
  registry : Registry := .empty
  options : OptionSection := .named "Canvas options"
  environment : Environment := .empty
  maxShapes : Int32 := 0
  port : Int32 := 0

namespace Service

def maxShapesName : String := "maxShapesPerDraw"

def portName : String := "canvas.port"

def maxShapesParameter (value : Int32) : Stored Int32 where
  header := { name := maxShapesName, setAt := .startupAndRuntime }
  rules := [Rule.ofBound maxShapesName Bound.greater 0]
  value := some value

-- The storage is the same for every registration, so the default counts even if the name is taken.
def registerParameters (s : Service) : Except Fault Unit × Service :=
  let p := Parameter.stored .int32 (maxShapesParameter 16)
  let s := { s with maxShapes := 16 }
  match s.registry.add p with
  | .error e => (.error e, { s with registry.parameters := s.registry.parameters.insert maxShapesName p })
  | .ok registry =>
    match registry.addAlias "shapeLimit" maxShapesName with
    | .error e => (.error e, { s with registry })
    | .ok registry => (.ok (), { s with registry })

def stored (r : Registry) (otherwise : Int32) : Int32 :=
  match r.parameters.get? maxShapesName with
  | some (.stored .int32 p) =>
    let p : Stored Int32 := p
    p.current
  | _ => otherwise

def setParameter (s : Service) (name text : String) : Except Fault Unit × Service :=
  let (result, registry) := s.registry.setText name text
  (result, { s with registry, maxShapes := stored registry s.maxShapes })

def checkPort (value : Bson.Value) : Except Fault Unit := do
  Rule.ofBound portName .greaterOrEqual 1 value.asInt32
  Rule.ofBound portName .lessOrEqual 65535 value.asInt32

def portOption : StartupOption where
  dottedName := portName
  singleName := portName
  type := .int
  description := "Port the canvas service listens on"
  default := some (.int32 27017)
  constraints := [checkPort]

def registerOptions (s : Service) : Service :=
  { s with options := s.options.addOption portOption }

def setOption (s : Service) (name : String) (value : Bson.Value) : Service :=
  { s with environment := s.environment.set name value }

def validate (s : Service) : Except Fault Unit × Service :=
  let (result, environment) := s.environment.validate s.options
  (result, { s with environment })

def storeOptions (s : Service) : Service :=
  match s.environment.get? portName with
  | some value => { s with port := value.asInt32 }
  | none => s

end Service

end WireSchema.Canvas
