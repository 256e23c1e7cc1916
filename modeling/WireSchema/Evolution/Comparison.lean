import WireSchema.Evolution.Incompatibility
import WireSchema.Schema.SymbolTable
import WireSchema.Schema.WireType

namespace WireSchema.Evolution

open Schema (CommandDef EnumDef FieldDef NamespaceRule Resolved ResolvedRef StructDef SymbolTable
  TypeDef)

-- A request has to accept everything that it accepted before, and a reply may hold only what it
-- could hold before.

structure Side where
  file : String
  symbols : SymbolTable

structure Pairing where
  command : String
  old : Side
  new : Side

inductive Finding where
  | fault (found : Incompatibility)
  | descend (old new : StructDef)

def Pairing.fault (p : Pairing) (cause : Cause) : Finding :=
  .fault { cause, command := p.command, file := p.new.file }

def Pairing.fieldFault (p : Pairing) (d : Direction) (change : FieldChange) : Finding :=
  p.fault (.field d change)

def Pairing.typeFault (p : Pairing) (d : Direction) (change : TypeChange) : Finding :=
  p.fault (.type d change)

def mayStayAny : List String :=
  ["aggregate-param-hint", "count-param-hint", "delete-param-hint", "explain-param-explain",
    "find-param-hint", "findAndModify-param-hint", "saslContinue-param-payload",
    "saslContinue-reply-payload", "saslStart-param-payload", "saslStart-reply-payload",
    "update-param-hint"]

def anyKey (d : Direction) (command field : String) : String :=
  d.pick s!"{command}-param-{field}" s!"{command}-param-{field}" s!"{command}-reply-{field}"

def covers (d : Direction) (old new : List String) : Bool :=
  match d with
  | .reply => new.all old.contains
  | .parameter | .commandType => old.all new.contains

def isAny (t : TypeDef) : Bool :=
  t.wireTypes.contains Schema.WireType.any

def compareAny (p : Pairing) (d : Direction) (field : String) (old new : TypeDef) :
    List Finding :=
  if !mayStayAny.contains (anyKey d p.command field) then [p.typeFault d (.staysAny field)]
  else
    (if old.rustType != new.rustType then
      [p.typeFault d (.rustType field (old.rustType.getD "") (new.rustType.getD ""))]
    else []) ++
    (if d = .reply && old.serializer != new.serializer then [p.typeFault d (.serializer field)]
    else [])

def compareTypes (p : Pairing) (d : Direction) (field : String) (old new : TypeDef) :
    List Finding :=
  match isAny old, isAny new with
  | true, true => compareAny p d field old new
  | false, true => [p.typeFault d (.toAny field new.name)]
  | true, false => [p.typeFault d (.fromAny field old.name)]
  | false, false =>
    if covers d old.wireTypes new.wireTypes then []
    else [p.typeFault d (.wireTypes field old.wireTypes new.wireTypes)]

def compareEnums (p : Pairing) (d : Direction) (field : String) (old new : EnumDef) :
    List Finding :=
  let oldValues := old.values.map (·.value)
  let newValues := new.values.map (·.value)
  if covers d oldValues newValues then []
  else [p.typeFault d (.enumValues field oldValues newValues)]

def compareResolved (p : Pairing) (d : Direction) (field : String) (old new : Resolved) :
    List Finding :=
  match old, new with
  | .type old, .type new => compareTypes p d field old new
  | .enum old, .enum new => compareEnums p d field old new
  | .struct old, .struct new => [.descend old new]
  | .enum _, new => [p.typeFault d (.fromEnum field new.name)]
  | .struct _, new => [p.typeFault d (.fromStruct field new.name)]
  | .type _, new => [p.typeFault d (.toEnumOrStruct field new.name)]

-- A variant holds one struct at most, so any two structs correspond; else names decide.
def corresponds (wanted candidate : Resolved) : Bool :=
  match candidate, wanted with
  | .struct _, .struct _ => true
  | _, _ => candidate.name == wanted.name

def counterpart? (alternatives : List Resolved) (wanted : Resolved) : Option Resolved :=
  alternatives.find? (corresponds wanted)

def compareVariants (p : Pairing) (d : Direction) (field : String) (old new : List Resolved) :
    List Finding :=
  match d with
  | .reply => new.flatMap fun wanted =>
    match counterpart? old wanted with
    | some found => compareResolved p d field found wanted
    | none => [p.typeFault d (.noCounterpart field wanted.name)]
  | .parameter | .commandType => old.flatMap fun wanted =>
    match counterpart? new wanted with
    | some found => compareResolved p d field wanted found
    | none => [p.typeFault d (.noCounterpart field wanted.name)]

-- A single type may become a variant in a request, and the other way round in a reply.
def compareRefs (p : Pairing) (d : Direction) (field : String) (old new : ResolvedRef) :
    List Finding :=
  match old, new with
  | .single old, .single new => compareResolved p d field old new
  | .array old, .array new => compareResolved p d field old new
  | .variant old, .variant new => compareVariants p d field old new
  | .single old, .variant new =>
    if d = .reply then [p.typeFault d (.variantOrSingle field)]
    else
      match counterpart? new old with
      | some found => compareResolved p d field old found
      | none => [p.typeFault d (.variantWithout field old.name)]
  | .variant old, .single new =>
    if d = .reply then
      match counterpart? old new with
      | some found => compareResolved p d field found new
      | none => [p.typeFault d (.notInVariant field new.name)]
    else [p.typeFault d (.variantOrSingle field)]
  | .variant _, .array _ | .array _, .variant _ => [p.typeFault d (.variantOrSingle field)]
  | .single _, .array _ | .array _, .single _ => [p.typeFault d (.arrayOrSingle field)]

def resolveOn (p : Pairing) (s : Side) (f : FieldDef) : List Finding × Option ResolvedRef :=
  match f.type with
  | none => ([], none)
  | some type =>
    match s.symbols.resolveRef type with
    | .ok r => ([], some r)
    | .error name =>
      ([.fault { cause := .unresolvedField f.name name, command := p.command, file := s.file }],
       none)

def compareFieldTypes (p : Pairing) (d : Direction) (old new : FieldDef) : List Finding :=
  let (oldFaults, oldType) := resolveOn p p.old old
  let (newFaults, newType) := resolveOn p p.new new
  oldFaults ++ newFaults ++
  match oldType, newType with
  | some oldType, some newType => compareRefs p d old.name oldType newType
  | _, _ => []

def compareValidators (p : Pairing) (d : Direction) (old new : FieldDef) : List Finding :=
  match old.validator, new.validator with
  | none, some _ => [p.fieldFault d (.gainedValidator new.name)]
  | some v, some w => if v.agrees w then [] else [p.fieldFault d (.changedValidator new.name)]
  | _, none => []

def onlyIf (condition : Bool) (finding : Finding) : List Finding :=
  if condition then [finding] else []

-- What was unstable promised nothing about its type.
def compareParameter (p : Pairing) (d : Direction) (old new : FieldDef) : List Finding :=
  onlyIf (!old.unstable && new.unstable) (p.fieldFault d (.unstable old.name)) ++
  onlyIf (old.unstable && !new.unstable && !new.optional && new.default.isNone)
    (p.fieldFault d (.stableRequired new.name)) ++
  onlyIf (old.optional && !new.optional) (p.fieldFault d (.required new.name)) ++
  if old.unstable then [] else compareValidators p d old new ++ compareFieldTypes p d old new

def compareReplyField (p : Pairing) (old new : FieldDef) : List Finding :=
  onlyIf new.unstable (p.fieldFault .reply (.unstable old.name)) ++
  onlyIf (!old.optional && new.optional) (p.fieldFault .reply (.optional old.name)) ++
  compareValidators p .reply old new ++ compareFieldTypes p .reply old new

def field? (s : StructDef) (name : String) : Option FieldDef :=
  s.fields.find? (·.name == name)

def compareReplies (p : Pairing) (old new : StructDef) : List Finding :=
  (old.fields.filter (!·.unstable)).flatMap fun f =>
    match field? new f.name with
    | some g => compareReplyField p f g
    | none => [p.fieldFault .reply (.removed f.name old.name)]

def compareRequests (p : Pairing) (d : Direction) (old new : StructDef) : List Finding :=
  (old.fields.flatMap fun f =>
    match field? new f.name with
    | some g => compareParameter p d f g
    | none => onlyIf (!f.unstable) (p.fieldFault d (.removed f.name old.name))) ++
  new.fields.flatMap fun g =>
    onlyIf ((field? old g.name).isNone && !g.optional && !g.unstable)
      (p.fieldFault d (.added g.name new.name))

def compareStructs (p : Pairing) (d : Direction) (old new : StructDef) : List Finding :=
  match d with
  | .reply => compareReplies p old new
  | .parameter | .commandType => compareRequests p d old new

end WireSchema.Evolution
