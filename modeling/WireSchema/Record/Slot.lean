namespace WireSchema.Record

structure Slot (α : Type) where
  value : α
  given : Bool := false
deriving DecidableEq, Repr

namespace Slot

variable {α : Type}

def unset (value : α) : Slot α := { value }

def of (value : α) : Slot α := { value, given := true }

-- An edit in place does not count as giving the value.
def modify (f : α → α) (s : Slot α) : Slot α :=
  { s with value := f s.value }

end Slot

structure Incomplete where
  typeName : String
deriving DecidableEq, Repr

def Incomplete.message (i : Incomplete) : String :=
  i.typeName ++ " is missing required fields"

def complete (typeName : String) (given : Bool) : Except Incomplete Unit :=
  if given then .ok () else .error { typeName }

end WireSchema.Record
