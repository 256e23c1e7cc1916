import WireSchema.Evolution.Comparison

namespace WireSchema.Evolution

open Schema (StructDef)

-- Structs may refer to themselves and to each other, so each pair is entered once in each
-- direction. One list of entered pairs serves all comparisons of a command, and every command
-- starts a new one.

structure Visit where
  old : String
  new : String
  direction : Direction
deriving DecidableEq, Repr

structure Ledger where
  found : List Incompatibility := []
  visited : List Visit := []

namespace Ledger

def add (l : Ledger) (i : Incompatibility) : Ledger :=
  { l with found := l.found ++ [i] }

def visit (l : Ledger) (v : Visit) : Ledger :=
  { l with visited := v :: l.visited }

def startCommand (l : Ledger) : Ledger :=
  { l with visited := [] }

end Ledger

def Pairing.visits (p : Pairing) (d : Direction) : List Visit :=
  p.old.symbols.structs.flatMap fun s => p.new.symbols.structs.map fun t => ⟨s.name, t.name, d⟩

def Pairing.unvisited (p : Pairing) (d : Direction) (l : Ledger) : List Visit :=
  (p.visits d).filter (· ∉ l.visited)

theorem Pairing.unvisited_visit (p : Pairing) (d : Direction) (l : Ledger) (v : Visit)
    (fresh : v ∉ l.visited ∧ v ∈ p.visits d) :
    (p.unvisited d (l.visit v)).length < (p.unvisited d l).length := by
  have split : p.unvisited d (l.visit v) = (p.unvisited d l).filter (· ≠ v) := by
    unfold unvisited Ledger.visit
    rw [List.filter_filter]
    simp [List.mem_cons, not_or]
  rw [split, List.length_filter_lt_length_iff_exists]
  refine ⟨v, ?_, by simp⟩
  unfold unvisited
  simp [fresh]

def walk (p : Pairing) (d : Direction) (l : Ledger) (findings : List Finding) : Ledger :=
  match findings with
  | [] => l
  | .fault found :: rest => walk p d (l.add found) rest
  | .descend old new :: rest =>
    let v : Visit := ⟨old.name, new.name, d⟩
    -- Findings lead to structs of the two schemas only, so the second condition never fails. It
    -- says why the walk ends.
    if _fresh : v ∉ l.visited ∧ v ∈ p.visits d then
      walk p d (l.visit v) (compareStructs p d old new ++ rest)
    else walk p d l rest
termination_by ((p.unvisited d l).length, findings.length)
decreasing_by
  · exact .right _ (by simp)
  · exact .left _ _ (p.unvisited_visit d l _ _fresh)
  · exact .right _ (by simp)

end WireSchema.Evolution
