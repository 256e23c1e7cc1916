import WireSchema.Proofs.Bound.Fields
import WireSchema.Proofs.Evolution.Commands
import WireSchema.Proofs.Evolution.Diagonal

namespace WireSchema.Evolution

open Schema (FieldDef StructDef builtinLocation fieldAt)

-- A field that must be there now was there before, stable and not optional. The check does not
-- notice that a default went, or that a field is no longer ignored.

structure Insists (f : FieldDef) : Prop where
  present : f.optional = false
  read : f.ignore = false
  given : f.default = none

-- A request without the field is refused by the code that is generated for it.
theorem isRequired_exact {symbols : Schema.SymbolTable} {owner : String} {f : FieldDef}
    {b : Bound.Field} (bound : Bound.bindField symbols owner f = pure (some b)) :
    b.isRequired = true ↔ Insists f := by
  have binds := Bound.bindField_binds bound
  have default : b.default = none ↔ f.default = none := by
    rw [← Option.not_isSome_iff_eq_none, binds.default, Option.not_isSome_iff_eq_none]
  simp only [Bound.Field.isRequired, binds.optional, binds.ignore, binds.chained,
    Bool.and_eq_true, Bool.not_eq_true', Option.isNone_iff_eq_none, default, Bool.not_false,
    and_true]
  exact ⟨fun ⟨⟨present, read⟩, given⟩ => ⟨present, read, given⟩,
    fun insists => ⟨⟨insists.present, insists.read⟩, insists.given⟩⟩

section

variable {p : Pairing} {d : Direction} {old new s t : StructDef} {f g : FieldDef}

structure Accepted (f g : FieldDef) : Prop where
  stays : f.unstable = false → g.unstable = false
  settles : f.unstable = true → g.unstable = false → g.optional = true ∨ g.default.isSome = true
  optional : f.optional = true → g.optional = true

theorem compareParameter_accepted (quiet : Quiet (compareParameter p d f g)) : Accepted f g := by
  simp only [compareParameter, quiet_append, and_assoc] at quiet
  obtain ⟨unstable, settled, required, _⟩ := quiet
  have unstable := quiet_onlyIf.mp unstable
  have settled := quiet_onlyIf.mp settled
  have required := quiet_onlyIf.mp required
  refine ⟨?_, ?_, ?_⟩
  · intro stable
    simpa [stable] using unstable
  · intro was now
    cases optional : g.optional with
    | true => exact .inl rfl
    | false => simpa [was, now, optional, Option.isNone_eq_false_iff] using settled
  · intro was
    simpa [was] using required

theorem compareStructs_accepted (asked : d ≠ .reply) (quiet : Quiet (compareStructs p d old new)) :
    (∀ f ∈ old.fields, ∀ g, field? new f.name = some g → Accepted f g) ∧
      ∀ g ∈ new.fields, g.optional = false → g.unstable = false →
        (field? old g.name).isSome = true := by
  have requests : Quiet (compareRequests p d old new) := by
    cases d with
    | parameter => exact quiet
    | commandType => exact quiet
    | reply => exact absurd rfl asked
  obtain ⟨stayed, came⟩ := quiet_append.mp requests
  constructor
  · intro f member g found
    have compared := quiet_flatMap.mp stayed f member
    simp only [found] at compared
    exact compareParameter_accepted compared
  · intro g member present stable
    have added := quiet_onlyIf.mp (quiet_flatMap.mp came g member)
    simpa [present, stable, Option.isNone_eq_false_iff] using added

theorem field?_parts {name : String} (found : field? s name = some f) :
    f ∈ s.fields ∧ f.name = name :=
  ⟨List.mem_of_find?_eq_some found, by simpa using List.find?_some found⟩

theorem insists_accepted (asked : d ≠ .reply) (quiet : Quiet (compareStructs p d old new))
    (found : field? new g.name = some g) (stable : g.unstable = false) (insists : Insists g) :
    ∃ f, field? old g.name = some f ∧ f.unstable = false ∧ f.optional = false := by
  obtain ⟨stayed, came⟩ := compareStructs_accepted asked quiet
  obtain ⟨f, known⟩ := Option.isSome_iff_exists.mp
    (came g (field?_parts found).1 insists.present stable)
  obtain ⟨member, named⟩ := field?_parts known
  have accepted := stayed f member g (by rw [named]; exact found)
  refine ⟨f, known, ?_, ?_⟩
  · refine eq_false_of_ne_true fun was => ?_
    simpa [insists.present, insists.given] using accepted.settles was stable
  · refine eq_false_of_ne_true fun was => ?_
    simpa [insists.present] using accepted.optional was

end

section

variable {l after : Ledger} {old new : LocatedCommand} {d : Direction}

-- Of a field that requests must hold now, the check knows that it was stable and not optional. They
-- had to hold it before exactly if it had no default and was not ignored.
theorem checkCommand_insists (checked : checkCommand l old new = (after, none))
    (silent : after.found = l.found) (asked : d ≠ .reply) {root : Site}
    (start : Root old new d root) {s t : StructDef}
    (path : Reached (pairing old new) d root (.structs s t)) {g : FieldDef}
    (found : field? t g.name = some g) (stable : g.unstable = false) (insists : Insists g) :
    ∃ f, field? s g.name = some f ∧ f.unstable = false ∧
      (Insists f ↔ f.ignore = false ∧ f.default = none) := by
  have quiet : Quiet (compareStructs (pairing old new) d s t) :=
    fun e faulty => (checkCommand_silent checked).mp silent d e (.reached start path faulty)
  obtain ⟨f, known, was, present⟩ := insists_accepted asked quiet found stable insists
  refine ⟨f, known, was, ?_⟩
  exact ⟨fun insists => ⟨insists.read, insists.given⟩, fun ⟨read, given⟩ => ⟨present, read, given⟩⟩

end

def limit (default : Option Schema.Expression) : FieldDef :=
  { fieldAt builtinLocation "limit" "int" with default }

def skip : FieldDef :=
  { fieldAt builtinLocation "skip" "int" with optional := true }

def findWith (fields : List FieldDef) : LocatedCommand :=
  { side := { file := "find.idl", symbols := {} }
    command := {
      base := { location := builtinLocation, name := "find", fields }
      commandName := "find", apiVersion := "1" } }

theorem findWith_silent {old new : List FieldDef}
    (quiet : compareStructs (pairing (findWith old) (findWith new)) .parameter
      (findWith old).command.base (findWith new).command.base = []) :
    checkCommand {} (findWith old) (findWith new) = ({}, none) := by
  refine checkCommand_parts.mpr ⟨[], [], rfl, rfl, ?_⟩
  rw [quiet]
  simp only [walk]
  rfl

theorem checkCommand_insists_limit :
    Insists (limit none) ∧ ∃ f, field? (findWith [limit none]).command.base "limit" = some f ∧
      f.unstable = false ∧ (Insists f ↔ f.ignore = false ∧ f.default = none) := by
  have checked : checkCommand {} (findWith [limit none]) (findWith [skip, limit none]) =
      ({}, none) :=
    findWith_silent (by decide)
  have insists : Insists (limit none) := ⟨rfl, rfl, rfl⟩
  exact ⟨insists, checkCommand_insists checked rfl (by decide) .parameters .refl rfl rfl insists⟩

-- The default went, the check found nothing, and requests that were complete are refused.
theorem lost_default_unnoticed :
    checkCommand {} (findWith [limit (some { code := some "10" })]) (findWith [limit none]) =
        ({}, none) ∧
      field? (findWith [limit none]).command.base "limit" = some (limit none) ∧
      (limit none).unstable = false ∧ Insists (limit none) ∧
      ¬∃ f, field? (findWith [limit (some { code := some "10" })]).command.base "limit" = some f ∧
        Insists f := by
  refine ⟨findWith_silent (by decide), rfl, rfl, ⟨rfl, rfl, rfl⟩, ?_⟩
  rintro ⟨f, found, insists⟩
  cases found
  exact nomatch insists.given

end WireSchema.Evolution
