namespace WireSchema.Integer

def natural? (text : List Char) : Option Nat :=
  if !text.isEmpty && text.all (·.isDigit) then
    some (text.foldl (fun n c => 10 * n + (c.toNat - 48)) 0)
  else none

def signed? : List Char → Option Int
  | '-' :: digits => (natural? digits).map fun n => -(n : Int)
  | '+' :: digits => (natural? digits).map fun n => (n : Int)
  | digits => (natural? digits).map fun n => (n : Int)

def fitting? (bits : Nat) (text : List Char) : Option Int :=
  let half := Int.ofNat (Nat.pow 2 (bits - 1))
  (signed? text).filter fun n => -half ≤ n ∧ n < half

def int32? (text : String) : Option Int32 :=
  (fitting? 32 text.toList).map Int32.ofInt

def int64? (text : String) : Option Int64 :=
  (fitting? 64 text.toList).map Int64.ofInt

end WireSchema.Integer
