import WireSchema.Text.Trim

namespace WireSchema.Emit

def scalarTypes : List String :=
  ["bool", "i8", "i16", "i32", "i64", "u8", "u16", "u32", "u64", "f32", "f64", "ObjectId",
    "DateTime", "Timestamp", "Decimal128"]

def isScalarType (rustType : String) : Bool :=
  scalarTypes.contains (Text.trim rustType)

inductive Storage where
  | copied (rustType : String)
  | viewed (rustType view : String)
  | lent (rustType : String)
  | array (element : Storage)
  | optional (inner : Storage)
deriving DecidableEq, Repr

namespace Storage

def ofType (rustType : String) : Storage :=
  let t := Text.trim rustType
  if isScalarType t then .copied t
  else if t == "String" then .viewed t "&str"
  else if t == "Vec<u8>" then .viewed t "&[u8]"
  else .lent t

def storageType : Storage → String
  | copied t => t
  | viewed t _ => t
  | lent t => t
  | array element => s!"Vec<{element.storageType}>"
  | optional inner => s!"Option<{inner.storageType}>"

def getterTypes : Storage → String × String
  | copied t => (t, s!"Option<{t}>")
  | viewed _ view => (view, s!"Option<{view}>")
  | lent t => (s!"&{t}", s!"Option<&{t}>")
  | array element => (s!"&[{element.storageType}]", s!"Option<&[{element.storageType}]>")
  | optional inner => (inner.getterTypes.2, s!"Option<{inner.getterTypes.2}>")

def getterType (s : Storage) : String :=
  s.getterTypes.1

def optionalGetterType (s : Storage) : String :=
  s.getterTypes.2

def getterBodies (member : String) : Storage → String × String
  | copied _ => (s!"self.{member}", s!"self.{member}")
  | viewed _ _ => (s!"&self.{member}", s!"self.{member}.as_deref()")
  | lent _ => (s!"&self.{member}", s!"self.{member}.as_ref()")
  | array _ => (s!"&self.{member}", s!"self.{member}.as_deref()")
  | optional inner => ((inner.getterBodies member).2, (inner.getterBodies member).2)

def getterBody (s : Storage) (member : String) : String :=
  (s.getterBodies member).1

def optionalGetterBody (s : Storage) (member : String) : String :=
  (s.getterBodies member).2

def mutGetterType? : Storage → Option String
  | copied _ => none
  | viewed _ _ => none
  | lent t => some s!"&mut {t}"
  | array element => some s!"&mut Vec<{element.storageType}>"
  | optional inner => inner.mutGetterType?.map fun _ => s!"Option<&mut {inner.storageType}>"

def isView : Storage → Bool
  | copied _ => false
  | viewed _ _ => true
  | lent _ => false
  | array _ => true
  | optional inner => inner.isView

def isCopied : Storage → Bool
  | copied _ => true
  | viewed _ _ => false
  | lent _ => false
  | array _ => false
  | optional inner => inner.isCopied

def setterType (s : Storage) : String :=
  s.storageType

end Storage

end WireSchema.Emit
