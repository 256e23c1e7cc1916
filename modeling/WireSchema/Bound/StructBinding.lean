import WireSchema.Bound.FieldBinding

namespace WireSchema.Bound

open Schema (Report Chained CommandDef FieldDef Location Resolved StructDef SymbolTable)

abbrev Placed := Field × Location

def chainedMember (c : Chained) (kind : FieldKind) : Field :=
  { name := c.name, rustName := memberNameOf c.rustName, kind, chained := true }

def dbNameField? (symbols : SymbolTable) : Option Field :=
  (symbols.type? "string").map fun t =>
    { name := "$db", rustName := "db_name"
      description := some "The database name the command runs against."
      kind := .basic (basicTypeOf t), requestOnly := true }

def bindChainedType (symbols : SymbolTable) (s : StructDef) (c : Chained) :
    Report (List Placed) := do
  match symbols.resolve? c.name with
  | none =>
    Report.complain c.location (.unknownType c.rustName c.name)
    return []
  | some (.type t) =>
    if !t.wireTypes.contains Schema.WireType.chain then
      Report.complain c.location (.notChainType c.name)
      return []
    else
      -- The member stays, so that its clashes with other fields are found as well.
      if s.strict then
        Report.complain c.location (.strictWithChainedType s.name c.name)
      return [(chainedMember c (.basic (basicTypeOf t)), c.location)]
  | some _ =>
    Report.complain c.location (.notChainType c.name)
    return []

def inlineField (symbols : SymbolTable) (c : Chained) (target : StructDef) (member : String)
    (f : FieldDef) : Report (List Placed) := do
  match ← bindField symbols (structRustName target) f with
  | none => return []
  | some b =>
    if b.array then
      Report.complain c.location (.chainedArray c.name f.name)
      return []
    else return [({ b with owner := some member }, c.location)]

def inlineFields (symbols : SymbolTable) (c : Chained) (target : StructDef) (member : String) :
    List FieldDef → Report (List Placed)
  | [] => return []
  | f :: rest => do
    let placed ← inlineField symbols c target member f
    let more ← inlineFields symbols c target member rest
    return placed ++ more

def bindChainedStruct (symbols : SymbolTable) (s : StructDef) (c : Chained) :
    Report (List Placed) := do
  match symbols.struct? c.name with
  | none =>
    Report.complain c.location <|
      if (symbols.resolve? c.name).isSome then .notStruct c.name
      else .unknownType c.rustName c.name
    return []
  | some target =>
    if !target.chainedStructs.isEmpty || !target.chainedTypes.isEmpty then
      Report.complain c.location (.chainedHasChains c.name)
      return []
    else
      let member := chainedMember c (.struct (structRefOf target))
      if !s.inlineChained then
        if s.strict then
          Report.complain c.location (.strictWithoutInlining s.name c.name)
        return [(member, c.location)]
      else if target.immutable then
        Report.complain c.location (.chainedImmutable c.name)
        return [(member, c.location)]
      else
        let inlined ← inlineFields symbols c target member.rustName target.fields
        return (member, c.location) :: inlined

def bindOwnFields (symbols : SymbolTable) (rustName : String) :
    List FieldDef → Report (List Placed)
  | [] => return []
  | f :: rest => do
    let bound ← bindField symbols rustName f
    let more ← bindOwnFields symbols rustName rest
    return (bound.map fun b => (b, f.location)).toList ++ more

structure Taken where
  names : List String := []
  members : List String := []
  orders : List Int := []

def holdsObjects : FieldKind → Bool
  | .struct _ => true
  | .basic t => t.isDocument
  | _ => false

def checkSequence (s : StructDef) (isCommand : Bool) (f : Field) (location : Location) :
    Report Unit :=
  if !f.docSequence then return ()
  else if !f.array || !holdsObjects f.kind then
    Report.complain location (.sequenceOfOthers f.name)
  else if !isCommand then Report.complain location (.sequenceOutsideCommand f.name s.name)
  else return ()

-- A variant that can hold a whole document has no order.
def checkCompared (s : StructDef) (f : Field) (location : Location) : Report Unit :=
  match f.kind with
  | .variant v =>
    let hasDocument := v.alternatives.any fun a =>
      match a.kind with
      | .basic t => t.isDocument
      | .struct _ => false
    if s.comparable && hasDocument then Report.complain location (.variantCompared f.name)
    else return ()
  | _ => return ()

-- A repeated wire name hides the other faults of its field.
def checkField (s : StructDef) (isCommand : Bool) (taken : Taken) (placed : Placed) :
    Report Taken := do
  let (f, location) := placed
  -- A chained member has no name on the wire, and an inlined field is no member of the struct.
  if !f.chained && taken.names.contains f.name then
    Report.complain location (.duplicateField s.name f.name f.owner.isSome)
    return taken
  else
    Report.complainIf (f.owner.isNone && taken.members.contains f.rustName) location
      (.duplicateMember s.name f.rustName)
    Report.complainIf (0 ≤ f.comparisonOrder && taken.orders.contains f.comparisonOrder) location
      (.duplicateOrder s.name f.comparisonOrder)
    checkSequence s isCommand f location
    checkCompared s f location
    return {
      names := if f.chained then taken.names else f.name :: taken.names
      members := if f.owner.isNone then f.rustName :: taken.members else taken.members
      orders := if 0 ≤ f.comparisonOrder then f.comparisonOrder :: taken.orders else taken.orders }

def bindFields (symbols : SymbolTable) (s : StructDef) (isCommand : Bool) :
    Report (List Placed) := do
  let types ← s.chainedTypes.mapM (bindChainedType symbols s)
  let structs ← s.chainedStructs.mapM (bindChainedStruct symbols s)
  let own ← bindOwnFields symbols (structRustName s) s.fields
  let db := if isCommand then (dbNameField? symbols).toList.map (·, s.location) else []
  return types.flatten ++ structs.flatten ++ own ++ db

def bindStruct (symbols : SymbolTable) (s : StructDef) (isCommand : Bool) :
    Report (Option Struct) :=
  Report.ifClean do
    let fields ← bindFields symbols s isCommand
    let _ ← fields.foldlM (checkField s isCommand) {}
    return {
      name := s.name, rustName := structRustName s, description := s.description
      strict := s.strict, immutable := s.immutable, inlineChained := s.inlineChained
      comparable := s.comparable, fields := fields.map (·.1), command := none }

def bindCommandField (symbols : SymbolTable) (c : CommandDef) : Report (Option Field) := do
  let location := c.base.location
  match c.namespaceRule, c.commandType with
  | .typed, none => Report.reject location (.missingCommandType c.commandName)
  | .typed, some type =>
    let bound ← bindFieldKind symbols location c.commandName type
      (structRustName c.base ++ "CommandParameter")
    return bound.map fun (kind, array) =>
      { name := c.commandName, rustName := "command_parameter", kind, array }
  | rule, some _ => Report.reject location (.needlessCommandType c.commandName rule.name)
  | _, none => return none

def checkReplyType (symbols : SymbolTable) (c : CommandDef) : Report Unit :=
  match c.replyType with
  | some reply =>
    Report.complainIf (symbols.struct? reply).isNone c.base.location
      (.unknownType "reply_type" reply)
  | none => return ()

def bindCommand (symbols : SymbolTable) (c : CommandDef) : Report (Option Struct) := do
  let bound ← Report.ifClean do
    let bound ← bindStruct symbols c.base true
    let commandField ← bindCommandField symbols c
    checkReplyType symbols c
    return bound.map fun s =>
      { s with
        command := some {
          commandName := c.commandName, namespaceRule := c.namespaceRule, commandField
          apiVersion := c.apiVersion, replyType := c.replyType } }
  return bound.join

end WireSchema.Bound
