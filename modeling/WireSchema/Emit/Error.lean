namespace WireSchema.Emit

inductive EmitError where
  | missingDeserializer (typeName : String)
  | missingElementType (tag : String)
  | missingSubtype (typeName : String)
  | unknownWireType (tag : String)
  | undecodable (tag : String)
  | missingSerializer (typeName : String)
  | missingChainSerializer (typeName : String)
  | noSequence (field : String)
  | emptyEnum (enumName : String)
  | emptyVariant (variant : String)
  | missingCommandField (command : String)
deriving DecidableEq, Repr

def EmitError.reason : EmitError → String
  | missingDeserializer typeName => s!"type '{typeName}' has no deserializer"
  | missingElementType tag => s!"'{tag}' has no element type"
  | missingSubtype typeName => s!"type '{typeName}' needs a bindata_subtype"
  | unknownWireType tag => s!"unknown bson type '{tag}'"
  | undecodable tag => s!"bson type '{tag}' cannot be decoded"
  | missingSerializer typeName => s!"type '{typeName}' has no serializer"
  | missingChainSerializer typeName => s!"chained type '{typeName}' has no serializer"
  | noSequence field => s!"field '{field}' cannot be a document sequence"
  | emptyEnum enumName => s!"enum '{enumName}' has no values"
  | emptyVariant variant => s!"variant '{variant}' has no alternatives"
  | missingCommandField command => s!"command '{command}' has namespace 'type' but no command field"

def EmitError.message (e : EmitError) : String :=
  "Generation error: " ++ e.reason

end WireSchema.Emit
