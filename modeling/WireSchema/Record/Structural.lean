import WireSchema.Bson.Encoding
import WireSchema.Text.ListOrder

namespace WireSchema.Record

-- Documents have no order of their own, so they are compared by their encoded bytes.

class Structural (α : Type) where
  order : α → α → Ordering
  same : α → α → Bool

def sameLists {α : Type} (same : α → α → Bool) (as bs : List α) : Bool :=
  as.length == bs.length && (as.zip bs).all fun (a, b) => same a b

def orderItems {α : Type} (order : α → α → Ordering) (as bs : List α) : Ordering :=
  (as.zip bs).foldr (fun (a, b) rest => (order a b).then rest) (compare as.length bs.length)

instance {α : Type} [Structural α] : Structural (List α) where
  order := orderItems Structural.order
  same := sameLists Structural.same

def orderOptions {α : Type} (order : α → α → Ordering) : Option α → Option α → Ordering
  | none, none => .eq
  | none, some _ => .lt
  | some _, none => .gt
  | some a, some b => order a b

def sameOptions {α : Type} (same : α → α → Bool) : Option α → Option α → Bool
  | none, none => true
  | some a, some b => same a b
  | _, _ => false

instance {α : Type} [Structural α] : Structural (Option α) where
  order := orderOptions Structural.order
  same := sameOptions Structural.same

instance : Structural Bson.Document where
  order a b := orderLists compare a.encode b.encode
  same a b := a.encode == b.encode

end WireSchema.Record
