import WireSchema.Canvas.Note
import WireSchema.Canvas.Shape
import WireSchema.Proofs.Record.Arrays

namespace WireSchema.Canvas

open Bson (Document Value)
open Record

theorem array_fields_count_up (c : Context) (d : Document) (countable : d.length < 2 ^ 32) :
    (∃ f read, Shape.form.field? "points" = some f ∧
      CountsUp (readNested Point.read) (c.child "points") d read ∧
      ∀ s, f.read c (.array d) s = read.map fun points => s.setPoints points) ∧
    (∃ f read, Note.form.field? "tags" = some f ∧
      CountsUp readText (c.child "tags") d read ∧
      ∀ n, f.read c (.array d) n = read.map fun tags => n.setTags (some tags)) ∧
    ∀ values, Value.ofItems values = .array (Bson.built values) :=
  ⟨⟨_, _, rfl, readArray_countsUp _ c "points" countable, fun _ => rfl⟩,
    ⟨_, _, rfl, readArray_countsUp _ c "tags" countable, fun _ => rfl⟩, Bson.ofItems_built⟩

-- Keys may have zeros in front.
def padded : Document := [("0", .string "a"), ("01", .string "b"), ("002", .string "c")]

-- The first element astray decides, whatever comes behind it.
def astray : Document := padded ++ [("2", .string "d"), ("x", .null)]

theorem padded_counted : Counted 0 (Document.names padded) := by
  have zero : Spells "0" 0 := ⟨[0], by decide, by decide, rfl, rfl⟩
  have one : Spells "01" 1 := ⟨[0, 1], by decide, by decide, rfl, rfl⟩
  have two : Spells "002" 2 := ⟨[0, 0, 2], by decide, by decide, rfl, rfl⟩
  exact counted_cons.mpr ⟨zero, counted_cons.mpr ⟨one, counted_cons.mpr ⟨two, counted_nil⟩⟩⟩

theorem array_fields_count_up_padded :
    padded.length < 2 ^ 32 ∧ astray.length < 2 ^ 32 ∧ ∃ f, Note.form.field? "tags" = some f ∧
      ∀ n, f.read (.root "note") (.array padded) n = .ok (n.setTags (some ["a", "b", "c"])) ∧
        f.read (.root "note") (.array astray) n = .error (.arrayOrder "note.tags" 2 3) := by
  have short : padded.length < 2 ^ 32 := by decide
  have long : astray.length < 2 ^ 32 := by decide
  obtain ⟨-, ⟨f, read, found, law, reads⟩, -⟩ := array_fields_count_up (.root "note") padded short
  obtain ⟨-, ⟨g, failed, same, refuses, fails⟩, -⟩ := array_fields_count_up (.root "note") astray long
  cases found
  cases same
  have accepted : read = .ok ["a", "b", "c"] := (law.accepted _).mpr ⟨padded_counted, rfl⟩
  have refused : failed = .error (.arrayOrder "note.tags" 2 3) := by
    have decoded := (law.succeeds.mp ⟨_, accepted⟩).2
    refine (refuses.refused _).mpr ⟨padded, ("2", .string "d"), _, rfl, padded_counted, decoded, ?_⟩
    exact .misplaced ⟨[2], by decide, by decide, rfl, rfl⟩ (by decide) (by decide)
  refine ⟨short, long, _, rfl, fun n => ⟨?_, ?_⟩⟩
  · rw [reads, accepted]
    rfl
  · rw [fails, refused]
    rfl

end WireSchema.Canvas
