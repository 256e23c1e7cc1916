import WireSchema.Evolution.Walk
import WireSchema.Text.NameMap

namespace WireSchema.Evolution

open Schema (CommandDef NamespaceRule ResolvedRef Spec StructDef)

structure SchemaFile where
  path : String
  spec : Spec

def SchemaFile.side (f : SchemaFile) : Side :=
  { file := f.path, symbols := f.spec.symbols }

structure Unresolved where
  file : String
  command : String
  role : String
  type : String
deriving DecidableEq, Repr

def Unresolved.message (u : Unresolved) : String :=
  s!"{u.file}: {u.command}: cannot resolve {u.role} '{u.type}'"

structure LocatedCommand where
  side : Side
  command : CommandDef

namespace LocatedCommand

def unresolved (c : LocatedCommand) (role type : String) : Unresolved :=
  { file := c.side.file, command := c.command.commandName, role, type }

def commandType (c : LocatedCommand) : Except Unresolved ResolvedRef :=
  match c.command.commandType with
  | none => .error (c.unresolved "command type" "")
  | some type =>
    match c.side.symbols.resolveRef type with
    | .ok r => .ok r
    | .error name => .error (c.unresolved "command type" name)

def reply (c : LocatedCommand) : Except Unresolved (Option StructDef) :=
  match c.command.replyType with
  | none => .ok none
  | some name =>
    match c.side.symbols.struct? name with
    | some s => .ok (some s)
    | none => .error (c.unresolved "reply type" name)

end LocatedCommand

def isNamespaceString : ResolvedRef → Bool
  | .single (.type t) => t.name == "namespacestring"
  | _ => false

def compareNamespaces (p : Pairing) (old new : LocatedCommand) :
    Except Unresolved (List Finding) := do
  let oldRule := old.command.namespaceRule
  let newRule := new.command.namespaceRule
  let faultUnless (compatible : Bool) : List Finding :=
    onlyIf (!compatible) (p.fault (.namespaceRule oldRule newRule))
  match oldRule with
  | .ignored => return faultUnless (newRule = .ignored)
  | .collectionOrUuid => return faultUnless (newRule = .ignored || newRule = .collectionOrUuid)
  | .collection => return faultUnless (newRule ≠ .typed)
  | .typed =>
    let oldType ← old.commandType
    if newRule = .typed then
      let newType ← new.commandType
      return compareRefs p .commandType old.command.commandName oldType newType
    else return faultUnless (isNamespaceString oldType || newRule = .ignored)

def compareReplyTypes (p : Pairing) (old new : LocatedCommand) :
    Except Unresolved (List Finding) := do
  let oldReply ← old.reply
  let newReply ← new.reply
  match oldReply, newReply with
  | some s, some t => return compareStructs p .reply s t
  | _, _ => return []

def checkCommand (l : Ledger) (old new : LocatedCommand) : Ledger × Option Unresolved :=
  let p : Pairing := { command := old.command.commandName, old := old.side, new := new.side }
  let l := walk p .parameter l.startCommand
    (compareStructs p .parameter old.command.base new.command.base)
  match compareNamespaces p old new with
  | .error u => (l, some u)
  | .ok findings =>
    let l := walk p .commandType l findings
    match compareReplyTypes p old new with
    | .error u => (l, some u)
    | .ok findings => (walk p .reply l findings, none)

def definedCommands (files : List SchemaFile) : List LocatedCommand :=
  files.flatMap fun f =>
    (f.spec.symbols.commands.filter (!·.base.imported)).map fun c => { side := f.side, command := c }

def collectCommand (collected : List Incompatibility × NameMap LocatedCommand)
    (c : LocatedCommand) : List Incompatibility × NameMap LocatedCommand :=
  let (found, known) := collected
  let name := c.command.commandName
  let version := c.command.apiVersion
  let fault (cause : Cause) : List Incompatibility :=
    found ++ [{ cause, command := name, file := c.side.file }]
  -- A command without a version promises nothing.
  if version.isEmpty then (found, known)
  else if version != "1" then (fault (.invalidVersion name version), known)
  else if known.contains name then (fault (.duplicateCommand name), known)
  else (found, known.insert name c)

def collectCommands (files : List SchemaFile) :
    List Incompatibility × NameMap LocatedCommand :=
  (definedCommands files).foldl collectCommand ([], .empty)

structure Stopped where
  cause : Unresolved
  found : List Incompatibility

def checkEach (new : NameMap LocatedCommand) (l : Ledger) :
    List (String × LocatedCommand) → Except Stopped Ledger
  | [] => .ok l
  | (name, old) :: rest =>
    match new.get? name with
    | none =>
      checkEach new (l.add { cause := .removedCommand name, command := name, file := old.side.file })
        rest
    | some c =>
      match checkCommand l old c with
      | (l, some u) => .error { cause := u, found := l.found }
      | (l, none) => checkEach new l rest

def checkCommands (old new : List SchemaFile) : Except Stopped (List Incompatibility) :=
  let (newFound, newCommands) := collectCommands new
  let (oldFound, oldCommands) := collectCommands old
  (checkEach newCommands { found := newFound ++ oldFound } oldCommands.entries).map (·.found)

def errorReply? (files : List SchemaFile) : Option (Side × StructDef) :=
  files.findSome? fun f => (f.spec.symbols.struct? "ErrorReply").map (f.side, ·)

def noCommand : String := "n/a"

def checkErrorReply (oldRoot newRoot : String) (old new : List SchemaFile) :
    List Incompatibility :=
  let missing (root : String) : List Incompatibility :=
    [{ cause := .noErrorReply root, command := noCommand, file := root }]
  match errorReply? old, errorReply? new with
  | some (oldSide, s), some (newSide, t) =>
    let p : Pairing := { command := noCommand, old := oldSide, new := newSide }
    (walk p .reply {} (compareStructs p .reply s t)).found
  | some _, none => missing newRoot
  | none, some _ => missing oldRoot
  | none, none => missing oldRoot ++ missing newRoot

def checkAll (oldRoot newRoot : String) (old new : List SchemaFile) :
    Except Stopped (List Incompatibility) := do
  let commands ← checkCommands old new
  return commands ++ checkErrorReply oldRoot newRoot old new

end WireSchema.Evolution
