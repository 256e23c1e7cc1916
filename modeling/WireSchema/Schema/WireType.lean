import WireSchema.Bson.Kind

namespace WireSchema.Schema.WireType

-- The deserializer receives the whole element.
def any : String := "any"

-- The deserializer receives the whole document around the element.
def chain : String := "chain"

structure Info where
  kind : Bson.Kind
  naturalType : Option String
  accessor : Option String
  toOwned : String
  scalar : Bool

def Info.elementType (i : Info) : String :=
  "ElementType::" ++ i.kind.constant

def infoOf : Bson.Kind → Info
  | .double => ⟨.double, some "f64", some "as_f64()", "", true⟩
  | .string => ⟨.string, some "String", some "as_str()", ".to_owned()", true⟩
  | .object => ⟨.object, some "Document", some "as_document()", ".clone()", false⟩
  | .array => ⟨.array, none, some "as_array()", ".clone()", false⟩
  | .binData => ⟨.binData, some "Vec<u8>", some "as_bin_data()", ".to_vec()", true⟩
  | .undefined => ⟨.undefined, none, none, "", true⟩
  | .objectId => ⟨.objectId, some "ObjectId", some "as_object_id()", "", true⟩
  | .bool => ⟨.bool, some "bool", some "as_bool()", "", true⟩
  | .date => ⟨.date, some "DateTime", some "as_date()", "", true⟩
  | .null => ⟨.null, none, none, "", true⟩
  | .regex => ⟨.regex, none, none, "", true⟩
  | .int32 => ⟨.int32, some "i32", some "as_i32()", "", true⟩
  | .timestamp => ⟨.timestamp, some "Timestamp", some "as_timestamp()", "", true⟩
  | .int64 => ⟨.int64, some "i64", some "as_i64()", "", true⟩
  | .decimal128 => ⟨.decimal128, some "Decimal128", some "as_decimal128()", "", true⟩

def info? (name : String) : Option Info :=
  (Bson.Kind.ofName? name).map infoOf

def isValid (name : String) : Bool :=
  name == any || name == chain || (info? name).isSome

def isScalar (name : String) : Bool :=
  (info? name).any (·.scalar)

def naturalType? (name : String) : Option String :=
  (info? name).bind (·.naturalType)

def isValidSubtype (name : String) : Bool :=
  (Bson.Subtype.ofName? name).isSome

def subtypeConstant (s : Bson.Subtype) : String :=
  "BinDataSubtype::" ++ s.constant

def subtypeConstant? (name : String) : Option String :=
  (Bson.Subtype.ofName? name).map subtypeConstant

end WireSchema.Schema.WireType
