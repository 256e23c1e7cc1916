import WireSchema.Number.Integer
import WireSchema.Text.Casing
import WireSchema.Text.Quoted
import WireSchema.Text.Trim

namespace WireSchema.Emit

-- Reserved words, and the methods that every generated struct has.
def reserved : List String :=
  ["as", "async", "await", "break", "const", "continue", "crate", "dyn", "else", "enum",
    "extern", "false", "fn", "for", "if", "impl", "in", "let", "loop", "match", "mod", "move",
    "mut", "pub", "ref", "return", "self", "Self", "static", "struct", "super", "trait", "true",
    "type", "unsafe", "use", "where", "while", "new", "parse", "parse_protected",
    "parse_op_msg_request", "serialize", "serialize_op_msg_request", "to_bson",
    "with_required"]

def unreserved (name : String) : String :=
  if reserved.contains name then name ++ "_" else name

def typeName (name : String) : String :=
  Casing.upperCamel name

def memberName (name : String) : String :=
  Casing.snake name

def constantName (name : String) : String :=
  Casing.shoutySnake (String.ofList (Text.dropEnd (· == '_') name.toList))

-- A `k` before a capital letter is no part of an enumerator's name: `kRed` becomes `Red`.
def enumeratorName (name : String) : String :=
  match name.toList with
  | 'k' :: second :: rest =>
    if second.isUpper then typeName (String.ofList (second :: rest)) else typeName name
  | _ => typeName name

def isFreeFunction (name : String) : Bool :=
  let rec go : List Char → Bool
    | ':' :: ':' :: _ => true
    | _ :: rest => go rest
    | [] => false
  go name.toList

def fieldNameConstant (member : String) : String :=
  constantName member ++ "_FIELD_NAME"

def defaultConstant (member : String) : String :=
  "DEFAULT_" ++ constantName member

def textLiteral (text : String) : String :=
  Quoted.describe text

def isFloatType (typeText : String) : Bool :=
  let t := Text.trim typeText
  t == "f32" || t == "f64"

def numberLiteral (typeText text : String) : String :=
  let trimmed := Text.trim text
  if isFloatType typeText && (Integer.int64? trimmed).isSome then trimmed ++ ".0" else text

end WireSchema.Emit
