import WireSchema.Emit.Encoder
import WireSchema.Proofs.Bound.Layout
import WireSchema.Proofs.Evolution.Commands
import WireSchema.Proofs.Evolution.Diagonal

namespace WireSchema.Emit

open WireSchema.Bound (Field)

def AlwaysWritten (f : Field) : Prop :=
  ∃ code, fieldSerializer false f = .ok code ∧
    presentValue f (wireNameConstant f) s!"self.{f.rustName}" false = .ok code

section

variable {f : Field} {code : List Code}

theorem anySerializer_line {t : Bound.BasicType} {name value : String}
    (emitted : anySerializer t name value = .ok code) : ∃ text, code = [.line text] := by
  unfold anySerializer at emitted
  split at emitted
  · cases emitted
  · split at emitted
    · cases emitted
      exact ⟨_, rfl⟩
    · cases emitted
      exact ⟨_, rfl⟩

theorem presentValue_line {name expr : String} {isRef : Bool}
    (emitted : presentValue f name expr isRef = .ok code) : ∃ text, Code.line text ∈ code := by
  unfold presentValue at emitted
  simp only at emitted
  split at emitted
  · split at emitted
    · obtain ⟨text, rfl⟩ := anySerializer_line emitted
      exact ⟨text, List.mem_singleton_self _⟩
    · split at emitted
      all_goals
        obtain ⟨_, _, emitted⟩ := bind_ok_exact.mp emitted
        cases emitted
        exact ⟨_, List.mem_cons_self⟩
  · split at emitted
    all_goals
      obtain ⟨_, _, emitted⟩ := bind_ok_exact.mp emitted
      cases emitted
      exact ⟨_, List.mem_cons_self⟩

-- A member that is left out, kept for requests or looked at first is not always written.
theorem alwaysWritten_exact (own : f.owner = none) (single : f.chained = false)
    (emitted : fieldSerializer false f = .ok code) :
    AlwaysWritten f ↔ f.optional = false ∧ f.ignore = false ∧ f.requestOnly = false := by
  have serialized : fieldSerializer false f =
      if f.ignore || f.requestOnly then .ok []
      else placeSerializer f (wireNameConstant f) s!"self.{f.rustName}" := by
    cases ignored : f.ignore <;> cases requested : f.requestOnly <;>
      simp [fieldSerializer, own, single, ignored, requested]
  constructor
  · rintro ⟨code, same, present⟩
    obtain ⟨text, outside⟩ := presentValue_line present
    rw [serialized] at same
    split at same
    · cases same
      exact absurd outside List.not_mem_nil
    · rename_i kept
      simp only [Bool.or_eq_true, not_or, Bool.not_eq_true] at kept
      refine ⟨eq_false_of_ne_true fun optional => ?_, kept⟩
      rw [placeSerializer, if_pos optional] at same
      obtain ⟨_, _, same⟩ := bind_ok_exact.mp same
      cases same
      simp [Code.braces] at outside
  · rintro ⟨required, kept, everywhere⟩
    refine ⟨code, emitted, ?_⟩
    rw [← emitted, serialized]
    simp [required, kept, everywhere, placeSerializer]

end

end WireSchema.Emit

namespace WireSchema.Evolution

open Emit (AlwaysWritten fieldSerializer)
open Schema (FieldDef StructDef builtinLocation fieldAt)
open WireSchema.Bound (bindStruct)

-- A stable field that was always written is still there, stable and not optional. The check does
-- not notice that a field is ignored now, and it looks at no field that a reply has from a chained
-- struct.

inductive Unfaulted : Pairing → StructDef → StructDef → Prop where
  | command {l after : Ledger} {old new : LocatedCommand} {root : Site} {s t : StructDef}
      (checked : checkCommand l old new = (after, none)) (silent : after.found = l.found)
      (start : Root old new .reply root)
      (path : Reached (pairing old new) .reply root (.structs s t)) :
      Unfaulted (pairing old new) s t
  | errorReply {oldRoot newRoot : String} {old new : List SchemaFile} {oldSide newSide : Side}
      {r q s t : StructDef} (oldFound : errorReply? old = some (oldSide, r))
      (newFound : errorReply? new = some (newSide, q))
      (silent : checkErrorReply oldRoot newRoot old new = [])
      (path : Reached ⟨noCommand, oldSide, newSide⟩ .reply (.structs r q) (.structs s t)) :
      Unfaulted ⟨noCommand, oldSide, newSide⟩ s t

section

variable {p : Pairing} {s t : StructDef} {f g : FieldDef}

theorem Unfaulted.quiet (unfaulted : Unfaulted p s t) : Quiet (compareStructs p .reply s t) := by
  intro e faulty
  cases unfaulted with
  | command checked silent start path =>
    exact (checkCommand_silent checked).mp silent .reply e (.reached start path faulty)
  | @errorReply _ _ _ _ oldSide newSide r q _ _ oldFound newFound silent path =>
    have start : (Site.structs r q).Known ⟨noCommand, oldSide, newSide⟩ := .structs
    have reported := (walk_reached (l := {}) start fun _ seen => absurd seen List.not_mem_nil).mpr
      (.inr ⟨_, path, faulty⟩)
    simp only [checkErrorReply, oldFound, newFound] at silent
    rw [Site.findings, silent] at reported
    exact List.not_mem_nil reported

theorem compareReplies_kept (quiet : Quiet (compareStructs p .reply s t)) (member : f ∈ s.fields)
    (stable : f.unstable = false) :
    ∃ g ∈ t.fields, g.name = f.name ∧ g.unstable = false ∧
      (f.optional = false → g.optional = false) := by
  have compared := quiet_flatMap.mp quiet f (List.mem_filter.mpr ⟨member, by simp [stable]⟩)
  cases found : field? t f.name with
  | none =>
    rw [found] at compared
    exact absurd (List.mem_singleton_self _) (compared _)
  | some g =>
    rw [found] at compared
    simp only [compareReplyField, quiet_append, and_assoc] at compared
    obtain ⟨unstable, optional, _⟩ := compared
    have optional := quiet_onlyIf.mp optional
    refine ⟨g, List.mem_of_find?_eq_some found, ?_, quiet_onlyIf.mp unstable, ?_⟩
    · simpa using List.find?_some found
    · intro required
      simpa [required] using optional

theorem own_field {symbols : Schema.SymbolTable} {b : Bound.Struct} {c : Bound.Field}
    (bound : bindStruct symbols s false = pure (some b)) (member : c ∈ b.fields)
    (own : c.owner = none) (single : c.chained = false) :
    ∃ f ∈ s.fields, Bound.FieldOf symbols (Bound.structRustName s) f c := by
  obtain ⟨_, same, fields, each, rfl⟩ := Bound.bindStruct_structOf bound
  cases same
  obtain ⟨origin, declared, comes⟩ := forall₂_left each.flip member
  cases origin with
  | chainedType chained =>
    obtain ⟨_, _, rfl⟩ := comes
    cases single
  | chainedStruct chained =>
    obtain ⟨_, _, rfl⟩ := comes
    cases single
  | inlined chained target f =>
    obtain ⟨_, _, rfl⟩ := comes
    cases own
  | own f =>
    refine ⟨f, ?_, comes⟩
    simpa [Bound.layout, Bound.chainLayout] using declared
  | database => simp [Bound.layout, Bound.chainLayout] at declared

theorem bound_field {symbols : Schema.SymbolTable} {b : Bound.Struct}
    (bound : bindStruct symbols s false = pure (some b)) (member : f ∈ s.fields) :
    ∃ c ∈ b.fields, Bound.FieldOf symbols (Bound.structRustName s) f c := by
  obtain ⟨_, same, fields, each, rfl⟩ := Bound.bindStruct_structOf bound
  cases same
  have declared : .own f ∈ Bound.layout symbols s false := by
    simp [Bound.layout, member]
  obtain ⟨c, there, comes⟩ := forall₂_left each declared
  exact ⟨c, there, comes⟩

-- A field of a reply that was always written is there and has to be given. It is always written
-- now exactly if it is neither ignored nor kept for requests, which the check does not look at.
theorem replies_hold {oldStruct newStruct : Bound.Struct} {b : Bound.Field}
    (unfaulted : Unfaulted p s t)
    (oldBound : bindStruct p.old.symbols s false = pure (some oldStruct))
    (newBound : bindStruct p.new.symbols t false = pure (some newStruct))
    (member : b ∈ oldStruct.fields) (own : b.owner = none) (single : b.chained = false)
    (stable : b.unstable = false) (written : AlwaysWritten b) :
    ∃ c ∈ newStruct.fields, c.name = b.name ∧ c.owner = none ∧ c.chained = false ∧
      c.unstable = false ∧ c.optional = false ∧
      ∀ code, fieldSerializer false c = .ok code →
        (AlwaysWritten c ↔ c.ignore = false ∧ c.requestOnly = false) := by
  obtain ⟨code, emitted, _⟩ := id written
  obtain ⟨required, _, _⟩ := (Emit.alwaysWritten_exact own single emitted).mp written
  obtain ⟨f, declared, _, _, _, _, _, rfl⟩ := own_field oldBound member own single
  obtain ⟨g, there, name, settled, kept⟩ := compareReplies_kept unfaulted.quiet declared stable
  obtain ⟨c, here, kind, array, default, _, _, rfl⟩ := bound_field newBound there
  have present : g.optional = false := kept required
  refine ⟨_, here, name, rfl, rfl, settled, present, fun code emitted => ?_⟩
  rw [Emit.alwaysWritten_exact rfl rfl emitted]
  exact and_iff_right present

end

def total (ignore : Bool) : FieldDef :=
  { fieldAt builtinLocation "total" "int" with ignore }

def hint : FieldDef :=
  { fieldAt builtinLocation "hint" "int" with optional := true }

def status : StructDef :=
  { location := builtinLocation, name := "status", fields := [total false] }

def answer (fields : List FieldDef) (chained : Bool) : StructDef :=
  { location := builtinLocation, name := "answer", fields
    chainedStructs := if chained then [⟨builtinLocation, "status", "status"⟩] else [] }

def countWith (fields : List FieldDef) (chained : Bool) : LocatedCommand :=
  { side := { file := "count.idl", symbols := { structs := [answer fields chained, status] } }
    command := {
      base := { location := builtinLocation, name := "count" }
      commandName := "count", apiVersion := "1", replyType := some "answer" } }

def boundTotal (ignore : Bool) : Bound.Field :=
  { Bound.intField "total" "total" with ignore }

def boundAnswer (fields : List Bound.Field) : Bound.Struct :=
  Bound.boundStruct "answer" "Answer" fields

section

variable {fields others : List FieldDef} {chained again : Bool}

theorem countWith_silent
    (quiet : compareStructs (pairing (countWith fields chained) (countWith others again)) .reply
      (answer fields chained) (answer others again) = []) :
    checkCommand {} (countWith fields chained) (countWith others again) = ({}, none) := by
  refine checkCommand_parts.mpr ⟨[], [], rfl, compareReplyTypes_exact.mpr ?_, ?_⟩
  · exact ⟨some (answer fields chained), some (answer others again), rfl, rfl, quiet.symm⟩
  · have parameters : compareStructs (pairing (countWith fields chained) (countWith others again))
        .parameter (countWith fields chained).command.base (countWith others again).command.base =
        [] := rfl
    simp only [parameters, walk]
    rfl

end

theorem boundTotal_written : AlwaysWritten (boundTotal false) := ⟨_, rfl, rfl⟩

theorem replies_hold_total :
    checkCommand {} (countWith [total false] false) (countWith [hint, total false] false) =
        ({}, none) ∧
      AlwaysWritten (boundTotal false) ∧ ∃ newStruct,
        bindStruct (countWith [hint, total false] false).side.symbols
          (answer [hint, total false] false) false = pure (some newStruct) ∧
        ∃ c ∈ newStruct.fields, c.name = "total" ∧ c.optional = false := by
  have checked : checkCommand {} (countWith [total false] false)
      (countWith [hint, total false] false) = ({}, none) :=
    countWith_silent rfl
  have oldBound : bindStruct (countWith [total false] false).side.symbols
      (answer [total false] false) false = pure (some (boundAnswer [boundTotal false])) :=
    Schema.Report.clean_exact.mpr (by decide +kernel)
  have newBound : bindStruct (countWith [hint, total false] false).side.symbols
      (answer [hint, total false] false) false =
        pure (some (boundAnswer [{ Bound.intField "hint" "hint" with optional := true },
          boundTotal false])) :=
    Schema.Report.clean_exact.mpr (by decide +kernel)
  obtain ⟨c, member, named, _, _, _, present, _⟩ := replies_hold
    (.command checked rfl (.replies rfl rfl) .refl) oldBound newBound
    (List.mem_singleton_self _) rfl rfl rfl boundTotal_written
  exact ⟨checked, boundTotal_written, _, newBound, c, member, named, present⟩

-- A total is ignored now, or was the total of a status that the answer does not chain any more.
theorem lost_totals_unnoticed :
    (checkCommand {} (countWith [total false] false) (countWith [total true] false) = ({}, none) ∧
      bindStruct (countWith [total false] false).side.symbols (answer [total false] false) false =
        pure (some (boundAnswer [boundTotal false])) ∧
      bindStruct (countWith [total true] false).side.symbols (answer [total true] false) false =
        pure (some (boundAnswer [boundTotal true])) ∧
      AlwaysWritten (boundTotal false) ∧ ¬AlwaysWritten (boundTotal true)) ∧
    (checkCommand {} (countWith [] true) (countWith [] false) = ({}, none) ∧
      (∃ oldStruct,
        bindStruct (countWith [] true).side.symbols (answer [] true) false =
            pure (some oldStruct) ∧
          oldStruct.fields.map (·.name) = ["status", "total"]) ∧
      bindStruct (countWith [] false).side.symbols (answer [] false) false =
        pure (some (boundAnswer []))) := by
  refine ⟨⟨countWith_silent rfl, ?_, ?_, boundTotal_written, ?_⟩, countWith_silent rfl, ?_, ?_⟩
  · exact Schema.Report.clean_exact.mpr (by decide +kernel)
  · exact Schema.Report.clean_exact.mpr (by decide +kernel)
  · intro written
    exact nomatch (Emit.alwaysWritten_exact rfl rfl rfl).mp written
  · exact ⟨_, Schema.Report.clean_exact.mpr ⟨rfl, by decide +kernel⟩, by decide +kernel⟩
  · exact Schema.Report.clean_exact.mpr (by decide +kernel)

end WireSchema.Evolution
