import WireSchema.Bound.Model
import WireSchema.Emit.Error

namespace WireSchema.Emit

open WireSchema.Bound (Field Struct)

inductive Flavour where
  | plain
  | ignored
  | collection (orUuid : Bool)
  | typed (field : Field)

namespace Flavour

def of (s : Struct) : Except EmitError Flavour :=
  match s.command with
  | none => .ok .plain
  | some c =>
    match c.namespaceRule with
    | .ignored => .ok .ignored
    | .collection => .ok (.collection false)
    | .collectionOrUuid => .ok (.collection true)
    | .typed =>
      match c.commandField with
      | some f => .ok (.typed f)
      | none => .error (.missingCommandField c.commandName)

def isCommand : Flavour → Bool
  | plain => false
  | _ => true

structure NamespaceMember where
  name : String
  rustType : String
  getter : String

def namespaceMember? : Flavour → Option NamespaceMember
  | collection false => some ⟨"nss", "NamespaceString", "namespace"⟩
  | collection true => some ⟨"nss_or_uuid", "NamespaceStringOrUuid", "namespace_or_uuid"⟩
  | _ => none

def commandField? : Flavour → Option Field
  | typed f => some f
  | _ => none

def constructorArguments (k : Flavour) : List (String × String) :=
  match k.namespaceMember?, k.commandField? with
  | some m, _ => [(m.name, m.rustType)]
  | none, some f => [(f.rustName, f.storage.storageType)]
  | none, none => []

def signature (name : String) (parameters : List String) (result : Option String) : String :=
  let parameters := ", ".intercalate parameters
  match result with
  | some r => s!"fn {name}({parameters}) -> {r}"
  | none => s!"fn {name}({parameters})"

def parseSignature (s : Struct) : String :=
  signature "parse" ["ctxt: &ParserContext", "bson_object: &Document"]
    (some s!"Result<{s.rustName}, IdlError>")

def requestParseSignature (s : Struct) : String :=
  signature "parse_op_msg_request" ["ctxt: &ParserContext", "request: &OpMsgRequest"]
    (some s!"Result<{s.rustName}, IdlError>")

def fillSignature (k : Flavour) : String :=
  let sequences := if k.isCommand then ["sequences: &[DocumentSequence]"] else []
  signature "parse_protected"
    (["&mut self", "ctxt: &ParserContext", "bson_object: &Document"] ++ sequences)
    (some "Result<(), IdlError>")

def passthrough (k : Flavour) : List String :=
  if k.isCommand then ["command_passthrough_fields: &Document"] else []

def serializeSignature (k : Flavour) : String :=
  signature "serialize" (["&self"] ++ k.passthrough ++ ["builder: &mut Document"]) none

def requestSerializeSignature (k : Flavour) : String :=
  signature "serialize_op_msg_request" (["&self"] ++ k.passthrough) (some "OpMsgRequest")

def toBsonSignature (k : Flavour) : String :=
  signature "to_bson" (["&self"] ++ k.passthrough) (some "Document")

end Flavour

end WireSchema.Emit
