namespace WireSchema.Text

def inRanges (ranges : List (Nat × Nat)) (c : Char) : Bool :=
  ranges.any fun (low, high) => low ≤ c.toNat && c.toNat ≤ high

structure Run where
  first : Nat
  last : Nat
  stride : Nat

def Run.contains (r : Run) (n : Nat) : Bool :=
  r.first ≤ n && n ≤ r.last && (n - r.first) % r.stride == 0

def inRuns (runs : List Run) (c : Char) : Bool :=
  runs.any (·.contains c.toNat)

end WireSchema.Text
