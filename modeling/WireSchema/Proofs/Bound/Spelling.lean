import Mathlib.Data.List.Nodup
import WireSchema.Proofs.Bound.Structs
import WireSchema.Proofs.Evolution.Enumerations

namespace WireSchema.Bound

open Bson (Value)
open Emit (EnumWrites enumArm? readEnum writeEnum)
open Schema (EnumDef Report Spec lineOf)

-- Binding keeps the texts of the values apart. But one number has many spellings, so an enum of
-- numbers may write two values as one number, and then reads back the first of them for both.

def Enum.Apart (e : Enum) : Prop :=
  (e.values.map (writeEnum e)).Nodup

def Enum.RoundTrips (e : Enum) : Prop :=
  ∀ x ∈ e.values, ∃ v, writeEnum e x = some v ∧ ∀ c field, readEnum e c field v = .ok x

def Enum.SpelledOnce (e : Enum) : Prop :=
  e.type = .int → ∀ x ∈ e.values, ∀ y ∈ e.values,
    Integer.int32? x.value = Integer.int32? y.value → x.value = y.value

def Enum.SpelledPlainly (e : Enum) : Prop :=
  e.type = .int → ∀ x ∈ e.values, ∀ n, Integer.int32? x.value = some n →
    x.value = toString n.toInt

section

variable {e : EnumDef} {b : Enum}

-- What the values before have taken, and what is bound after them, never meets.
theorem bindEnumValues_apart {names values : List String} {declared : List Schema.EnumValue}
    {bound : List EnumValue} (ran : bindEnumValues e names values declared = pure bound) :
    (bound.map (·.rustName)).Nodup ∧ (∀ x ∈ bound, x.rustName ∉ names) ∧
      (bound.map (·.value)).Nodup ∧ ∀ x ∈ bound, x.value ∉ values := by
  induction declared generalizing names values bound with
  | nil =>
    cases Report.pure_clean.mp ran
    simp
  | cons v rest ih =>
    unfold bindEnumValues at ran
    obtain ⟨newName, ran⟩ := Report.complain_unless.mp ran
    obtain ⟨newValue, ran⟩ := Report.complain_unless.mp ran
    obtain ⟨_, ran⟩ := Report.complain_unless.mp ran
    obtain ⟨more, others, ran⟩ := Report.bind_clean.mp ran
    cases Report.pure_clean.mp ran
    obtain ⟨names, freeNames, values, freeValues⟩ := ih others
    simp only [List.mem_cons, not_or] at freeNames freeValues
    simp only [List.contains_iff_mem] at newName newValue
    refine ⟨?_, ?_, ?_, ?_⟩
    · apply List.nodup_cons.mpr
      refine ⟨?_, names⟩
      intro again
      obtain ⟨x, member, same⟩ := List.mem_map.mp again
      exact (freeNames x member).1 same
    · rw [List.forall_mem_cons]
      exact ⟨newName, fun x member => (freeNames x member).2⟩
    · apply List.nodup_cons.mpr
      refine ⟨?_, values⟩
      intro again
      obtain ⟨x, member, same⟩ := List.mem_map.mp again
      exact (freeValues x member).1 same
    · rw [List.forall_mem_cons]
      exact ⟨newValue, fun x member => (freeValues x member).2⟩

theorem bindEnum_apart (bound : bindEnum e = pure (some b)) :
    (b.values.map (·.rustName)).Nodup ∧ (b.values.map (·.value)).Nodup := by
  unfold bindEnum at bound
  split at bound
  · exact absurd bound Report.reject_clean
  · obtain ⟨_, same, ran⟩ := Report.ifClean_exact.mp bound
    cases same
    obtain ⟨values, each, ran⟩ := Report.bind_clean.mp ran
    obtain ⟨_, ran⟩ := Report.complain_unless.mp ran
    cases Report.pure_clean.mp ran
    obtain ⟨names, -, texts, -⟩ := bindEnumValues_apart each
    exact ⟨names, texts⟩

end

section

variable {e : Enum}

theorem enumArm?_writes {x y : EnumValue} {v : Value} (written : writeEnum e x = some v)
    (found : enumArm? e v = some y) : y ∈ e.values ∧ writeEnum e y = some v := by
  unfold enumArm? at found
  unfold writeEnum at written ⊢
  cases type : e.type with
  | string =>
    simp only [type] at written found ⊢
    cases written
    refine ⟨List.mem_of_find?_eq_some found, ?_⟩
    have same := List.find?_some found
    simpa [Value.asString] using same
  | int =>
    simp only [type] at written found ⊢
    obtain ⟨n, -, rfl⟩ := Option.map_eq_some_iff.mp written
    refine ⟨List.mem_of_find?_eq_some found, ?_⟩
    have same := List.find?_some found
    simp only [Value.asInt32, beq_iff_eq] at same
    rw [same]
    rfl

theorem roundTrips_exact (texts : (e.values.map (·.value)).Nodup)
    (writable : ∀ x ∈ e.values, ∃ v, writeEnum e x = some v) : e.RoundTrips ↔ e.Apart := by
  constructor
  · intro back
    apply List.Nodup.map_on ?_ (List.Nodup.of_map _ texts)
    intro x here y there same
    obtain ⟨v, written, reads⟩ := back x here
    obtain ⟨w, again, readsAgain⟩ := back y there
    have one : v = w := by
      rw [written, again] at same
      exact Option.some.inj same
    have both := (reads (.root "") "").symm.trans (one ▸ readsAgain (.root "") "")
    exact Except.ok.inj both
  · intro apart x member
    obtain ⟨v, written⟩ := writable x member
    refine ⟨v, written, ?_⟩
    intro c field
    have writes : EnumWrites e v := ⟨x, member, written⟩
    obtain ⟨y, found⟩ := (Emit.enumArm?_exact writes.passes).mpr writes
    obtain ⟨there, again⟩ := enumArm?_writes written found
    have same : y = x := List.inj_on_of_nodup_map apart there member (again.trans written.symm)
    apply Emit.readEnum_exact.mpr
    exact ⟨writes.passes c field, same ▸ found⟩

theorem apart_exact (texts : (e.values.map (·.value)).Nodup)
    (writable : ∀ x ∈ e.values, ∃ v, writeEnum e x = some v) : e.Apart ↔ e.SpelledOnce := by
  constructor
  · intro apart type x here y there number
    have same : writeEnum e x = writeEnum e y := by
      simp only [writeEnum, type, number]
    rw [List.inj_on_of_nodup_map apart here there same]
  · intro once
    apply List.Nodup.map_on ?_ (List.Nodup.of_map _ texts)
    intro x here y there same
    apply List.inj_on_of_nodup_map texts here there
    obtain ⟨v, written⟩ := writable x here
    unfold writeEnum at same written
    cases type : e.type with
    | string =>
      simp only [type] at same
      exact Value.string.inj (Option.some.inj same)
    | int =>
      simp only [type] at same written
      apply once type x here y there
      exact Option.map_injective (fun _ _ => Value.int32.inj) same

theorem Enum.SpelledPlainly.once (plain : e.SpelledPlainly)
    (writable : ∀ x ∈ e.values, ∃ v, writeEnum e x = some v) : e.SpelledOnce := by
  intro type x here y there same
  obtain ⟨v, written⟩ := writable x here
  unfold writeEnum at written
  simp only [type] at written
  obtain ⟨n, number, -⟩ := Option.map_eq_some_iff.mp written
  rw [plain type x here n number, plain type y there n (same ▸ number)]

end

-- An enum reads back what it writes exactly if it spells no number twice. Texts that differ are
-- enough for an enum of texts, and for one whose numbers are spelled as they are printed.
theorem enum_values_exact {spec : Spec} {idl : Idl} (bound : bind spec = .ok idl) {e : Enum}
    (member : e ∈ idl.enums) :
    (e.values.map (·.rustName)).Nodup ∧ (e.RoundTrips ↔ e.Apart) ∧ (e.Apart ↔ e.SpelledOnce) ∧
      (e.type = .string → e.Apart) ∧ (e.SpelledPlainly → e.Apart) := by
  obtain ⟨_, enums, _⟩ := bind_parts bound
  obtain ⟨d, binds⟩ := enums e member
  obtain ⟨names, texts⟩ := bindEnum_apart binds
  obtain ⟨_, writable⟩ := bindEnum_writes binds
  have exactly := apart_exact texts writable
  refine ⟨names, roundTrips_exact texts writable, exactly, ?_, ?_⟩
  · intro type
    apply exactly.mpr
    intro number
    rw [type] at number
    cases number
  · intro plain
    exact exactly.mpr (plain.once writable)

section

def gaugeWith (low high : String) : Spec :=
  { symbols := { enums := [
      { location := lineOf "gauge.idl" 1, name := "gauge", type := "int"
        values := [⟨lineOf "gauge.idl" 2, "low", low⟩, ⟨lineOf "gauge.idl" 3, "high", high⟩] }] } }

def boundGauge (low high : String) : Enum :=
  { name := "gauge", rustName := "Gauge", description := none, type := .int
    values := [⟨"low", "Low", low⟩, ⟨"high", "High", high⟩] }

-- A number with zeros in front is as good as any other, as long as it is not there twice.
theorem enum_values_exact_gauge :
    ∃ idl, bind (gaugeWith "-7" "007") = .ok idl ∧ idl.enums = [boundGauge "-7" "007"] ∧
      (boundGauge "-7" "007").RoundTrips := by
  have bound : bind (gaugeWith "-7" "007") = .ok (bindAll (gaugeWith "-7" "007")).value :=
    Report.toExcept_of_clean (by decide +kernel)
  have enums : (bindAll (gaugeWith "-7" "007")).value.enums = [boundGauge "-7" "007"] := by
    decide +kernel
  have member : boundGauge "-7" "007" ∈ (bindAll (gaugeWith "-7" "007")).value.enums := by
    rw [enums]
    exact List.mem_singleton_self _
  obtain ⟨_, back, once, _⟩ := enum_values_exact bound member
  refine ⟨_, bound, enums, back.mpr (once.mpr ?_)⟩
  unfold Enum.SpelledOnce
  decide +kernel

-- Both values are written as the number 1, which is read as the first of them.
theorem one_number_spelled_twice :
    ∃ idl, bind (gaugeWith "1" "01") = .ok idl ∧ idl.enums = [boundGauge "1" "01"] ∧
      (∀ x ∈ (boundGauge "1" "01").values,
        writeEnum (boundGauge "1" "01") x = some (.int32 1)) ∧
      (∀ c field, readEnum (boundGauge "1" "01") c field (.int32 1) = .ok ⟨"low", "Low", "1"⟩) ∧
      ¬(boundGauge "1" "01").Apart ∧ ¬(boundGauge "1" "01").RoundTrips := by
  have bound : bind (gaugeWith "1" "01") = .ok (bindAll (gaugeWith "1" "01")).value :=
    Report.toExcept_of_clean (by decide +kernel)
  have written : ∀ x ∈ (boundGauge "1" "01").values,
      writeEnum (boundGauge "1" "01") x = some (.int32 1) := by
    intro x member
    rcases List.mem_cons.mp member with rfl | member
    · rfl
    · rcases List.mem_singleton.mp member with rfl
      rfl
  have read : ∀ c field, readEnum (boundGauge "1" "01") c field (.int32 1) =
      .ok ⟨"low", "Low", "1"⟩ := fun _ _ => rfl
  have high : (⟨"high", "High", "01"⟩ : EnumValue) ∈ (boundGauge "1" "01").values :=
    List.mem_cons_of_mem _ (List.mem_singleton_self _)
  have once : ¬(boundGauge "1" "01").RoundTrips := by
    intro back
    obtain ⟨v, sent, reads⟩ := back _ high
    rw [written _ high] at sent
    cases sent
    have same := Except.ok.inj ((read (.root "") "").symm.trans (reads (.root "") ""))
    exact absurd same (by decide)
  have texts : ((boundGauge "1" "01").values.map (·.value)).Nodup := by decide
  refine ⟨_, bound, by decide +kernel, written, read, ?_, once⟩
  intro apart
  exact once ((roundTrips_exact texts fun x member => ⟨_, written x member⟩).mpr apart)

end

end WireSchema.Bound
