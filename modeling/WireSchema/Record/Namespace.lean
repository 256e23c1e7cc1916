import WireSchema.Record.Fault

namespace WireSchema.Record

structure Namespace where
  db : String
  coll : String
deriving DecidableEq, Repr

instance : Inhabited Namespace := ⟨⟨"", ""⟩⟩

namespace Namespace

-- The first dot divides; later dots belong to the collection.
def ofText (text : String) : Except Fault Namespace :=
  let db := text.toList.takeWhile (· != '.')
  let coll := (text.toList.dropWhile (· != '.')).drop 1
  if db.isEmpty then .error (.invalidNamespace text)
  else .ok ⟨String.ofList db, String.ofList coll⟩

def text (n : Namespace) : String :=
  if n.coll.isEmpty then n.db else n.db ++ "." ++ n.coll

def order (m n : Namespace) : Ordering :=
  (compare m.db n.db).then (compare m.coll n.coll)

end Namespace

inductive NamespaceOrUuid where
  | named (ns : Namespace)
  | uuid (db : String) (id : List UInt8)
deriving DecidableEq, Repr

instance : Inhabited NamespaceOrUuid := ⟨.named default⟩

def NamespaceOrUuid.db : NamespaceOrUuid → String
  | named ns => ns.db
  | uuid db _ => db

end WireSchema.Record
