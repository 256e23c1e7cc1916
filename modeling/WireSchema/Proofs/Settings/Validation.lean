import WireSchema.Proofs.Outcome
import WireSchema.Settings.Environment

namespace WireSchema.Settings

open Bson (Value)
open Record (Fault)

inductive OptionSection.Holds : OptionSection → StartupOption → Prop where
  | own {s : OptionSection} {o : StartupOption} (member : o ∈ s.options) : Holds s o
  | inside {s inner : OptionSection} {o : StartupOption} (member : inner ∈ s.sections)
      (holds : Holds inner o) : Holds s o

namespace OptionSection

variable {o : StartupOption}

mutual

theorem holds_of_mem : (s : OptionSection) → o ∈ s.allOptions → s.Holds o
  | mk name options sections, member => by
    rw [allOptions] at member
    rcases List.mem_append.mp member with own | deeper
    · exact .own own
    · obtain ⟨inner, among, holds⟩ := holds_of_memOf sections deeper
      exact .inside among holds

theorem holds_of_memOf : (sections : List OptionSection) → o ∈ allOptionsOf sections →
    ∃ inner ∈ sections, inner.Holds o
  | [], member => by
    rw [allOptionsOf] at member
    cases member
  | inner :: rest, member => by
    rw [allOptionsOf] at member
    rcases List.mem_append.mp member with first | later
    · exact ⟨inner, List.mem_cons_self, holds_of_mem inner first⟩
    · obtain ⟨other, among, holds⟩ := holds_of_memOf rest later
      exact ⟨other, List.mem_cons_of_mem _ among, holds⟩

end

theorem mem_allOptionsOf {inner : OptionSection} {sections : List OptionSection}
    (among : inner ∈ sections) (member : o ∈ inner.allOptions) : o ∈ allOptionsOf sections := by
  induction sections with
  | nil => cases among
  | cons first rest ih =>
    rw [allOptionsOf, List.mem_append]
    rcases List.mem_cons.mp among with rfl | later
    · exact .inl member
    · exact .inr (ih later)

theorem mem_allOptions {s : OptionSection} : o ∈ s.allOptions ↔ s.Holds o := by
  constructor
  · exact holds_of_mem s
  · intro holds
    induction holds with
    | @own s o member =>
      obtain ⟨name, options, sections⟩ := s
      rw [allOptions]
      exact List.mem_append_left _ member
    | @inside s inner o member _ ih =>
      obtain ⟨name, options, sections⟩ := s
      rw [allOptions]
      exact List.mem_append_right _ (mem_allOptionsOf member ih)

end OptionSection

namespace Environment

-- What options ask of an environment. They name one another by dotted names; an old name counts for
-- nothing.
structure Satisfies (e : Environment) (s : OptionSection) : Prop where
  known : ∀ name ∈ e.values.names, ∃ o, s.Holds o ∧ o.dottedName = name
  fitting : ∀ o value, s.Holds o → e.get? o.dottedName = some value →
    value.kind = o.type.kind ∧ ∀ constraint ∈ o.constraints, constraint value = .ok ()
  required : ∀ o name, s.Holds o → e.contains o.dottedName = true → name ∈ o.requires →
    e.contains name = true
  apart : ∀ o name, s.Holds o → e.contains o.dottedName = true → name ∈ o.conflicts →
    e.contains name = false

-- How a value comes to stand under a name: it was given there, is the default of an option of that
-- name, or stood under an old name of one.
inductive Comes (e : Environment) (s : OptionSection) : String → Value → Prop where
  | given {name : String} {value : Value} (here : e.get? name = some value) : Comes e s name value
  | default {o : StartupOption} {value : Value} (holds : s.Holds o)
      (own : o.default = some value) : Comes e s o.dottedName value
  | moved {o : StartupOption} {old : String} {value : Value} (holds : s.Holds o)
      (deprecated : old ∈ o.deprecatedNames) (before : Comes e s old value) :
      Comes e s o.dottedName value

section

variable {e : Environment} {o : StartupOption} {name : String} {value : Value}

theorem get?_set (e : Environment) (name key : String) (value : Value) :
    (e.set name value).get? key = if key = name then some value else e.get? key :=
  NameMap.get?_insert ..

theorem get?_erase (e : Environment) (name key : String) :
    (e.erase name).get? key = if key = name then none else e.get? key :=
  NameMap.get?_erase ..

theorem migrate_parts (here : (e.migrate o).get? name = some value) : e.get? name = some value ∨
    name = o.dottedName ∧ ∃ old ∈ o.deprecatedNames, e.get? old = some value := by
  unfold migrate at here
  split at here
  · rename_i old moved found
    obtain ⟨key, deprecated, found⟩ := List.exists_of_findSome?_eq_some found
    obtain ⟨stood, present, same⟩ := Option.map_eq_some_iff.mp found
    cases same
    rw [get?_set] at here
    split at here
    · rename_i same
      cases here
      exact .inr ⟨same, old, deprecated, present⟩
    · rw [get?_erase] at here
      split at here
      · cases here
      · exact .inl here
  · exact .inl here

theorem fillDefault_parts (here : (e.fillDefault o).get? name = some value) :
    e.get? name = some value ∨ name = o.dottedName ∧ o.default = some value := by
  unfold fillDefault at here
  split at here
  · rename_i filled _ own
    rw [get?_set] at here
    split at here
    · rename_i same
      cases here
      exact .inr ⟨same, own⟩
    · exact .inl here
  · exact .inl here

theorem complete_comes {s : OptionSection} {options : List StartupOption}
    (all : ∀ o ∈ options, s.Holds o) {start : Environment}
    (before : ∀ name value, e.get? name = some value → Comes start s name value)
    (here : (e.complete options).get? name = some value) : Comes start s name value := by
  induction options generalizing e with
  | nil => exact before name value here
  | cons o rest ih =>
    obtain ⟨holds, others⟩ := List.forall_mem_cons.mp all
    refine ih others ?_ here
    intro key v there
    rcases fillDefault_parts there with migrated | ⟨rfl, own⟩
    · rcases migrate_parts migrated with there | ⟨rfl, old, deprecated, there⟩
      · exact before key v there
      · exact .moved holds deprecated (before old v there)
    · exact .default holds own

theorem check_exact : o.check value = .ok () ↔
    value.kind = o.type.kind ∧ ∀ constraint ∈ o.constraints, constraint value = .ok () := by
  unfold StartupOption.check
  by_cases kind : value.kind = o.type.kind
  · have even : (value.kind != o.type.kind) = false := by simp [kind]
    rw [even]
    show o.constraints.forM (· value) = .ok () ↔ _
    rw [forM_ok_exact]
    simp [kind]
  · have odd : (value.kind != o.type.kind) = true := by simpa using kind
    rw [odd]
    simp only [kind, false_and, iff_false]
    intro passed
    cases passed

theorem checkNames_exact {options : List StartupOption} : e.checkNames options = .ok () ↔
    ∀ name ∈ e.values.names, ∃ o ∈ options, o.dottedName = name := by
  have each (name : String) :
      (if options.any (·.dottedName == name) then .ok ()
        else .error (.option (.unrecognized name)) : Except Fault Unit) = .ok () ↔
      ∃ o ∈ options, o.dottedName = name := by
    have any : options.any (·.dottedName == name) = true ↔ ∃ o ∈ options, o.dottedName = name := by
      simp [List.any_eq_true]
    rw [← any]
    split <;> simp_all
  unfold checkNames
  rw [forM_ok_exact]
  simp only [each]

theorem checkOption_exact : e.checkOption o = .ok () ↔
    ∀ value, e.get? o.dottedName = some value →
      (value.kind = o.type.kind ∧ ∀ constraint ∈ o.constraints, constraint value = .ok ()) ∧
      (∀ name ∈ o.requires, e.contains name = true) ∧
      ∀ name ∈ o.conflicts, e.contains name = false := by
  have present (name : String) :
      (if e.contains name then .ok ()
        else .error (.option (.requires o.dottedName name)) : Except Fault Unit) = .ok () ↔
      e.contains name = true := by
    split <;> simp_all
  have absent (name : String) :
      (if e.contains name then .error (.option (.notAllowedWith o.dottedName name))
        else .ok () : Except Fault Unit) = .ok () ↔ e.contains name = false := by
    split <;> simp_all
  unfold checkOption
  cases given : e.get? o.dottedName with
  | none => simp
  | some value =>
    simp only [check_bind_exact, check_exact, forM_ok_exact, present, absent, Option.some.injEq,
      forall_eq']

theorem contains_exact : e.contains name = true ↔ ∃ value, e.get? name = some value := by
  rw [contains, get?, NameMap.contains, Option.isSome_iff_exists]

theorem checks_exact {s : OptionSection} :
    (do
      e.checkNames s.allOptions
      s.allOptions.forM e.checkOption) = .ok () ↔ e.Satisfies s := by
  rw [check_bind_exact, checkNames_exact, forM_ok_exact]
  simp only [checkOption_exact, OptionSection.mem_allOptions]
  constructor
  · rintro ⟨known, checked⟩
    refine ⟨known, fun o value holds given => (checked o holds value given).1, ?_, ?_⟩
    · intro o name holds given required
      obtain ⟨value, given⟩ := contains_exact.mp given
      exact (checked o holds value given).2.1 name required
    · intro o name holds given other
      obtain ⟨value, given⟩ := contains_exact.mp given
      exact (checked o holds value given).2.2 name other
  · rintro ⟨known, fitting, required, apart⟩
    refine ⟨known, fun o holds value given => ?_⟩
    have here := contains_exact.mpr ⟨value, given⟩
    exact ⟨fitting o value holds given, fun name => required o name holds here,
      fun name => apart o name holds here⟩

end

-- Old names and defaults may have put a value in its place; the checks are on what came out of
-- that, for the options of all the sections.
theorem validated_satisfies (e : Environment) (s : OptionSection) :
    let after := (e.validate s).2
    ((e.validate s).1 = .ok () ↔ after.Satisfies s) ∧
    (∀ name value, after.get? name = some value → Comes e s name value) ∧
    ∀ o, o ∈ s.allOptions ↔ s.Holds o := by
  refine ⟨checks_exact, ?_, fun _ => OptionSection.mem_allOptions⟩
  intro name value here
  exact complete_comes (fun _ => OptionSection.mem_allOptions.mp) (fun _ _ => .given) here

def listening : OptionSection :=
  .mk "General" [] [.mk "Net" [
    { dottedName := "net.port", singleName := "port", type := .int, description := "Port",
      deprecatedNames := ["port"], requires := ["net.bindIp"] },
    { dottedName := "net.bindIp", singleName := "bindIp", type := .string, description := "Address",
      default := some (.string "localhost") }] []]

-- The port is given under its old name, and what it requires is there by default.
example : (empty.set "port" (.int32 27017)).validate listening =
    (.ok (), (empty.set "net.port" (.int32 27017)).set "net.bindIp" (.string "localhost")) := by
  rfl

end Environment

end WireSchema.Settings
