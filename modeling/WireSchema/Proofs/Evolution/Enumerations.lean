import WireSchema.Canvas.Shape
import WireSchema.Proofs.Bound.Layout
import WireSchema.Proofs.Evolution.Leaves

namespace WireSchema.Emit

open Bson (Kind Value)
open Record (Context Fault)
open WireSchema.Bound (Enum EnumRef EnumType EnumValue)

def enumCheck : EnumType → ElementCheck
  | .string => .kind .string
  | .int => .kind .int32

-- The arm that takes an element. Texts are compared as they stand, numbers by their value.
def enumArm? (e : Enum) (v : Value) : Option EnumValue :=
  match e.type with
  | .string => e.values.find? (·.value == v.asString)
  | .int => e.values.find? (Integer.int32? ·.value == some v.asInt32)

def enumText (e : Enum) (v : Value) : String :=
  match e.type with
  | .string => v.asString
  | .int => toString v.asInt32.toInt

def readEnum (e : Enum) (c : Context) (field : String) (v : Value) : Except Fault EnumValue := do
  (enumCheck e.type).run c field v
  match enumArm? e v with
  | some x => return x
  | none => throw ((c.child field).enumValue (enumText e v))

-- The generated encoder of an enum, as far as the literal of the value is a number of its type.
def writeEnum (e : Enum) (x : EnumValue) : Option Value :=
  match e.type with
  | .string => some (.string x.value)
  | .int => (Integer.int32? x.value).map .int32

def EnumReads (e : Enum) (v : Value) : Prop :=
  ∀ c field, ∃ x, readEnum e c field v = .ok x

def EnumWrites (e : Enum) (v : Value) : Prop :=
  ∃ x ∈ e.values, writeEnum e x = some v

section

variable {e : Enum} {v : Value} {x : EnumValue} {c : Context} {field : String}

-- Generated decoders ask of an element what `readEnum` asks of it first.
theorem elementValue_enum (r : EnumRef) (s : ElementSource) :
    ∃ value, elementValue (.enum r) s = .ok ([(enumCheck r.type).code s], value) := by
  obtain ⟨name, rustName, type⟩ := r
  cases type <;> exact ⟨_, rfl⟩

theorem readEnum_exact : readEnum e c field v = .ok x ↔
    (enumCheck e.type).run c field v = .ok () ∧ enumArm? e v = some x := by
  unfold readEnum
  rw [bind_ok_exact]
  constructor
  · rintro ⟨_, asked, found⟩
    refine ⟨asked, ?_⟩
    split at found
    · rename_i arm
      cases found
      exact arm
    · cases found
  · rintro ⟨asked, arm⟩
    refine ⟨(), asked, ?_⟩
    rw [arm]
    rfl

theorem enumArm?_exact (asked : (enumCheck e.type).Passes v) :
    (∃ x, enumArm? e v = some x) ↔ EnumWrites e v := by
  obtain ⟨kind, -⟩ := ElementCheck.passes_exact.mp asked
  unfold enumArm? EnumWrites writeEnum
  cases type : e.type with
  | string =>
    rw [type] at kind
    cases v with
    | string text => simp [← Option.isSome_iff_exists, Value.asString]
    | _ => simp [enumCheck, ElementCheck.asked, Value.kind] at kind
  | int =>
    rw [type] at kind
    cases v with
    | int32 n => simp [← Option.isSome_iff_exists, Value.asInt32]
    | _ => simp [enumCheck, ElementCheck.asked, Value.kind] at kind

theorem EnumWrites.passes (writes : EnumWrites e v) : (enumCheck e.type).Passes v := by
  obtain ⟨x, -, written⟩ := writes
  unfold writeEnum at written
  cases type : e.type with
  | string =>
    rw [type] at written
    cases written
    exact fun _ _ => rfl
  | int =>
    rw [type] at written
    obtain ⟨n, -, rfl⟩ := Option.map_eq_some_iff.mp written
    exact fun _ _ => rfl

theorem enumReads_exact : EnumReads e v ↔ EnumWrites e v := by
  constructor
  · intro reads
    have asked : (enumCheck e.type).Passes v := by
      intro c field
      obtain ⟨x, read⟩ := reads c field
      exact (readEnum_exact.mp read).1
    obtain ⟨x, read⟩ := reads (.root "") ""
    exact (enumArm?_exact asked).mp ⟨x, (readEnum_exact.mp read).2⟩
  · intro writes c field
    obtain ⟨x, arm⟩ := (enumArm?_exact writes.passes).mpr writes
    exact ⟨x, readEnum_exact.mpr ⟨writes.passes c field, arm⟩⟩

end

-- The kinds of shapes are read like any declared enum.
theorem readEnum_shapeKind (c : Context) (field : String) (v : Value) :
    (readEnum { name := "shape_kind", rustName := "ShapeKind", description := none, type := .string
                values := [⟨"kPolygon", "Polygon", "polygon"⟩, ⟨"kCircle", "Circle", "circle"⟩] }
        c field v).map (·.value) =
      (Canvas.Shape.readKind c field v).map Canvas.ShapeKind.text := by
  unfold readEnum Canvas.Shape.readKind
  simp only [enumCheck, ElementCheck.run, enumArm?, enumText]
  cases c.expectKind field v .string with
  | error e => rfl
  | ok u =>
    generalize v.asString = text
    by_cases polygon : "polygon" = text
    · cases polygon
      rfl
    · by_cases circle : "circle" = text
      · cases circle
        rfl
      · have unread : Canvas.ShapeKind.read (c.child field) text =
            .error ((c.child field).enumValue text) := by
          unfold Canvas.ShapeKind.read
          split
          · exact absurd rfl polygon
          · exact absurd rfl circle
          · rfl
        simp only [List.find?_cons, List.find?_nil, beq_false_of_ne polygon, beq_false_of_ne circle,
          unread]
        rfl

end WireSchema.Emit

namespace WireSchema.Bound

open Emit (EnumWrites writeEnum)
open Schema (EnumDef Report)

theorem bindEnumValues_numbers {e : EnumDef} {names values : List String}
    {declared : List Schema.EnumValue} {bound : List EnumValue}
    (ran : bindEnumValues e names values declared = pure bound) (number : e.type = "int") :
    ∀ v ∈ declared, ∃ n, Integer.int32? v.value = some n := by
  induction declared generalizing names values bound with
  | nil => exact fun v member => absurd member List.not_mem_nil
  | cons first rest ih =>
    unfold bindEnumValues at ran
    obtain ⟨_, ran⟩ := Report.complain_unless.mp ran
    obtain ⟨_, ran⟩ := Report.complain_unless.mp ran
    obtain ⟨fits, ran⟩ := Report.complain_unless.mp ran
    obtain ⟨more, others, _⟩ := Report.bind_clean.mp ran
    intro v member
    rcases List.mem_cons.mp member with rfl | later
    · simpa [number, ← Option.isSome_iff_exists, Option.isSome_iff_ne_none] using fits
    · exact ih others v later

theorem bindEnum_writes {e : EnumDef} {b : Enum} (bound : bindEnum e = pure (some b)) :
    b.values ≠ [] ∧ ∀ x ∈ b.values, ∃ v, writeEnum b x = some v := by
  obtain ⟨_, same, enumOf⟩ := bindEnum_enumOf bound
  cases same
  unfold bindEnum at bound
  split at bound
  · exact absurd bound Report.reject_clean
  · obtain ⟨_, _, ran⟩ := Report.ifClean_exact.mp bound
    obtain ⟨values, each, ran⟩ := Report.bind_clean.mp ran
    obtain ⟨nonempty, _⟩ := Report.complain_unless.mp ran
    have number := bindEnumValues_numbers each
    rw [enumOf]
    refine ⟨by simpa using nonempty, ?_⟩
    intro x member
    obtain ⟨v, declared, rfl⟩ := List.mem_map.mp member
    unfold writeEnum enumTypeOf
    by_cases int : e.type = "int"
    · obtain ⟨n, fits⟩ := number int v declared
      simp [int, fits]
    · simp [int]

end WireSchema.Bound

namespace WireSchema.Evolution

open Emit (EnumReads EnumWrites writeEnum)
open Schema (EnumDef)
open WireSchema.Bound (Enum bindEnum)

-- The comparison looks at the texts of the values alone. The wire type itself is not compared, and
-- where it changes everything that was written is refused.

section

variable {p : Pairing} {d : Direction} {field : String} {writer reader : Enum}

theorem enumWrites_cover
    (kept : ∀ text ∈ writer.values.map (·.value), text ∈ reader.values.map (·.value))
    (nonempty : writer.values ≠ []) (writable : ∀ x ∈ writer.values, ∃ v, writeEnum writer x = some v) :
    (∀ v, EnumWrites writer v → EnumWrites reader v) ↔ writer.type = reader.type := by
  constructor
  · intro cover
    obtain ⟨x, member⟩ := List.exists_mem_of_ne_nil _ nonempty
    obtain ⟨v, written⟩ := writable x member
    have writes : EnumWrites writer v := ⟨x, member, written⟩
    obtain ⟨sent, -⟩ := Emit.ElementCheck.passes_exact.mp writes.passes
    obtain ⟨taken, -⟩ := Emit.ElementCheck.passes_exact.mp (cover v writes).passes
    cases sending : writer.type <;> cases taking : reader.type <;>
      simp_all [Emit.enumCheck, Emit.ElementCheck.asked]
  · rintro same v ⟨x, member, written⟩
    obtain ⟨y, there, text⟩ := List.mem_map.mp (kept x.value (List.mem_map_of_mem member))
    refine ⟨y, there, ?_⟩
    rw [← written]
    simp only [writeEnum, same, text]

-- The comparison is silent, and the elements are kept exactly if the wire type is. In a request
-- these are the elements that were read before, in a reply those that are written now.
theorem enum_elements_exact {old new : EnumDef} {oldEnum newEnum : Enum}
    (oldBound : bindEnum old = pure (some oldEnum)) (newBound : bindEnum new = pure (some newEnum))
    (silent : compareResolved p d field (.enum old) (.enum new) = []) :
    ((∀ v, EnumReads (d.writer oldEnum newEnum) v → EnumReads (d.reader oldEnum newEnum) v) ↔
        oldEnum.type = newEnum.type) ∧
      ((∀ v, EnumWrites (d.writer oldEnum newEnum) v → EnumReads (d.reader oldEnum newEnum) v) ↔
        oldEnum.type = newEnum.type) := by
  obtain ⟨_, same, oldOf⟩ := Bound.bindEnum_enumOf oldBound
  cases same
  obtain ⟨_, same, newOf⟩ := Bound.bindEnum_enumOf newBound
  cases same
  have oldTexts : oldEnum.values.map (·.value) = old.values.map (·.value) := by
    rw [oldOf]
    simp
  have newTexts : newEnum.values.map (·.value) = new.values.map (·.value) := by
    rw [newOf]
    simp
  have kept := compareEnums_silent.mp silent
  rw [← oldTexts, ← newTexts] at kept
  have cover : (∀ v, EnumWrites (d.writer oldEnum newEnum) v →
      EnumWrites (d.reader oldEnum newEnum) v) ↔ oldEnum.type = newEnum.type := by
    obtain ⟨oldSome, oldWritable⟩ := Bound.bindEnum_writes oldBound
    obtain ⟨newSome, newWritable⟩ := Bound.bindEnum_writes newBound
    cases d with
    | parameter => exact enumWrites_cover kept oldSome oldWritable
    | commandType => exact enumWrites_cover kept oldSome oldWritable
    | reply => exact (enumWrites_cover kept newSome newWritable).trans eq_comm
  simp only [Emit.enumReads_exact]
  exact ⟨cover, cover⟩

end

def level (type : String) (values : List String) : EnumDef :=
  { location := Schema.builtinLocation, name := "level", type
    values := values.map fun value => ⟨Schema.builtinLocation, "level" ++ value, value⟩ }

def levels (type : Bound.EnumType) (values : List String) : Enum :=
  { name := "level", rustName := "Level", description := none, type
    values := values.map fun value => ⟨"level" ++ value, "Level" ++ value, value⟩ }

def logging : Pairing :=
  alone "log" "log.idl"

-- Numbers may be spelled with leading zeros; 07 is read as the number that it was.
theorem enum_elements_exact_level :
    bindEnum (level "int" ["1", "07"]) = pure (some (levels .int ["1", "07"])) ∧
      bindEnum (level "int" ["07", "3", "1"]) = pure (some (levels .int ["07", "3", "1"])) ∧
      EnumReads (levels .int ["1", "07"]) (.int32 7) ∧
      EnumReads (levels .int ["07", "3", "1"]) (.int32 7) := by
  have before : bindEnum (level "int" ["1", "07"]) = pure (some (levels .int ["1", "07"])) :=
    Schema.Report.clean_exact.mpr (by decide +kernel)
  have after : bindEnum (level "int" ["07", "3", "1"]) =
      pure (some (levels .int ["07", "3", "1"])) :=
    Schema.Report.clean_exact.mpr (by decide +kernel)
  have seven : EnumReads (levels .int ["1", "07"]) (.int32 7) := fun _ _ => ⟨_, rfl⟩
  have silent : compareResolved logging .parameter "level" (.enum (level "int" ["1", "07"]))
      (.enum (level "int" ["07", "3", "1"])) = [] := rfl
  exact ⟨before, after, seven, (enum_elements_exact before after silent).1.mpr rfl _ seven⟩

-- A level was the text 1 and is the number 1 now.
theorem changed_enum_type_unnoticed :
    (∀ d, compareResolved logging d "level" (.enum (level "string" ["1"]))
        (.enum (level "int" ["1"])) = []) ∧
      bindEnum (level "string" ["1"]) = pure (some (levels .string ["1"])) ∧
      bindEnum (level "int" ["1"]) = pure (some (levels .int ["1"])) ∧
      EnumReads (levels .string ["1"]) (.string "1") ∧
      ¬EnumReads (levels .int ["1"]) (.string "1") ∧
      EnumWrites (levels .int ["1"]) (.int32 1) ∧
      ¬EnumReads (levels .string ["1"]) (.int32 1) := by
  refine ⟨fun d => by cases d <;> rfl, ?_, ?_, fun _ _ => ⟨_, rfl⟩, ?_, ?_, ?_⟩
  · exact Schema.Report.clean_exact.mpr (by decide +kernel)
  · exact Schema.Report.clean_exact.mpr (by decide +kernel)
  · intro reads
    obtain ⟨_, read⟩ := reads (.root "log") "level"
    cases read
  · exact ⟨_, List.mem_singleton_self _, rfl⟩
  · intro reads
    obtain ⟨_, read⟩ := reads (.root "log") "level"
    cases read

end WireSchema.Evolution
