import WireSchema.Number.Integer
import WireSchema.Record.Namespace

namespace WireSchema.Record

-- The places around come with the nearest first.
structure Context where
  name : String
  outer : List String := []
deriving DecidableEq, Repr

namespace Context

def root (name : String) : Context := { name }

def child (c : Context) (name : String) : Context :=
  { name, outer := c.name :: c.outer }

def path (c : Context) : String :=
  ".".intercalate (c.name :: c.outer).reverse

def fieldPath (c : Context) (field : String) : String :=
  c.path ++ "." ++ field

def wrongKind (c : Context) (field : String) (value : Bson.Value) (expected : List Bson.Kind) :
    Fault :=
  .wrongKind (c.fieldPath field) expected value.kind

def expectKinds (c : Context) (field : String) (value : Bson.Value) (expected : List Bson.Kind) :
    Except Fault Unit :=
  if expected.contains value.kind then .ok () else .error (c.wrongKind field value expected)

def expectKind (c : Context) (field : String) (value : Bson.Value) (expected : Bson.Kind) :
    Except Fault Unit :=
  c.expectKinds field value [expected]

def expectSubtype (c : Context) (field : String) (value : Bson.Value) (expected : Bson.Subtype) :
    Except Fault Unit := do
  c.expectKind field value .binData
  match value.subtype? with
  | some found =>
    if found = expected then return ()
    else throw (.wrongSubtype (c.fieldPath field) expected.toByte found.toByte)
  | none => throw (.wrongSubtype (c.fieldPath field) expected.toByte 0)

def duplicateField (c : Context) (field : String) : Fault :=
  .duplicateField (c.fieldPath field)

def missingField (c : Context) (field : String) : Fault :=
  .missingField (c.fieldPath field)

def unknownField (c : Context) (field : String) : Fault :=
  .unknownField (c.fieldPath field)

def arrayOrder (c : Context) (actual expected : Nat) : Fault :=
  .arrayOrder c.path actual expected

def arrayKey (c : Context) (value : String) : Fault :=
  .arrayKey c.path value

def enumValue (c : Context) (value : String) : Fault :=
  .enumValue c.path value

def collection (c : Context) (db : String) (value : Bson.Value) : Except Fault Namespace := do
  c.expectKind c.name value .string
  if value.asString.isEmpty then throw (.invalidNamespace (db ++ "."))
  else return ⟨db, value.asString⟩

def collectionOrUuid (c : Context) (db : String) (value : Bson.Value) :
    Except Fault NamespaceOrUuid := do
  if value.kind = .binData then
    c.expectSubtype c.name value .uuid
    return .uuid db value.asBinary
  else return .named (← c.collection db value)

end Context

-- Without a context the field stands for itself.
def comparisonFault (c : Option Context) (field operator value limit : String) : Fault :=
  .comparison ((c.map (·.fieldPath field)).getD field) operator value limit

def arrayPosition? (key : String) : Option Nat :=
  (Integer.natural? key.toList).filter (· < Nat.pow 2 32)

end WireSchema.Record
