import WireSchema.Bson.Value

namespace WireSchema.Record

open Bson (Document)

structure DocumentSequence where
  name : String
  documents : List Document

structure Request where
  body : Document
  sequences : List DocumentSequence := []

def Request.database? (r : Request) : Option String :=
  (r.body.get? "$db").map (·.asString)

def Request.sequence? (r : Request) (name : String) : Option DocumentSequence :=
  r.sequences.find? (·.name == name)

def genericArguments : List String :=
  ["$audit", "$client", "$clusterTime", "$configServerState", "$db", "$queryOptions",
    "$readPreference", "$replData", "allowImplicitCollectionCreation", "apiDeprecationErrors",
    "apiStrict", "apiVersion", "autocommit", "comment", "coordinator", "databaseVersion", "lsid",
    "maxTimeMS", "readConcern", "shardVersion", "startTransaction", "stmtId", "txnNumber",
    "writeConcern"]

def isGenericArgument (name : String) : Bool :=
  genericArguments.contains name

def passedArguments (known : List String) (passed : Document) : Document :=
  passed.filter fun (name, _) => isGenericArgument name && !known.contains name

end WireSchema.Record
