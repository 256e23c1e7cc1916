import Mathlib.Data.List.Pairwise
import WireSchema.Proofs.Settings.Validation

namespace WireSchema.Settings

open Bson (Value)

-- An option ends up with the value under the first of its old names in use, else with the one under
-- its own name, else with its default. A second old name in use is refused, but a value under the
-- option's own name gives way without a word.

namespace StartupOption

def Apart (o p : StartupOption) : Prop :=
  ∀ name ∈ o.dottedName :: o.deprecatedNames, p.isCalled name = false

instance : DecidableRel Apart := fun o p =>
  inferInstanceAs (Decidable (∀ name ∈ o.dottedName :: o.deprecatedNames, p.isCalled name = false))

section

variable {o p : StartupOption} {name : String} {options : List StartupOption}

theorem isCalled_exact :
    o.isCalled name = true ↔ name = o.dottedName ∨ name ∈ o.deprecatedNames := by
  simp [isCalled, @eq_comm _ name]

theorem Apart.other (apart : o.Apart p) (called : o.isCalled name = true) :
    p.isCalled name = false :=
  apart name (List.mem_cons.mpr (isCalled_exact.mp called))

theorem isCalled_own : o.isCalled o.dottedName = true :=
  isCalled_exact.mpr (.inl rfl)

theorem Apart.symm (apart : o.Apart p) : p.Apart o := by
  intro name member
  by_contra other
  have called := isCalled_exact.mpr (List.mem_cons.mp member)
  rw [apart.other (eq_true_of_ne_false other)] at called
  cases called

instance : Std.Symm Apart := ⟨fun _ _ => Apart.symm⟩

theorem called_unique (apart : options.Pairwise Apart) (here : o ∈ options) (there : p ∈ options)
    (called : o.isCalled name = true) (called' : p.isCalled name = true) : o = p := by
  by_contra other
  have absent := (apart.forall here there other).other called
  rw [called'] at absent
  cases absent

end

end StartupOption

namespace Environment

def moved? (e : Environment) (o : StartupOption) : Option (String × Value) :=
  o.deprecatedNames.findSome? fun old => (e.get? old).map (old, ·)

def settled? (e : Environment) (o : StartupOption) : Option Value :=
  ((e.moved? o).map (·.2)).or ((e.get? o.dottedName).or o.default)

def settle (e : Environment) (o : StartupOption) : Environment :=
  (e.migrate o).fillDefault o

def Undisputed (e : Environment) (o : StartupOption) : Prop :=
  ∀ old ∈ o.deprecatedNames, ∀ value own, e.get? old = some value →
    e.get? o.dottedName = some own → value = own

section

variable {e e' : Environment} {o p : StartupOption} {name key old : String} {value : Value}
  {options : List StartupOption}

theorem moved?_some (moved : e.moved? o = some (old, value)) :
    old ∈ o.deprecatedNames ∧ e.get? old = some value := by
  obtain ⟨key, deprecated, found⟩ := List.exists_of_findSome?_eq_some moved
  obtain ⟨stood, present, same⟩ := Option.map_eq_some_iff.mp found
  cases same
  exact ⟨deprecated, present⟩

theorem get?_migrate (key : String) : (e.migrate o).get? key =
    match e.moved? o with
    | some (old, value) =>
      if key = o.dottedName then some value else if key = old then none else e.get? key
    | none => e.get? key := by
  show Environment.get? (match e.moved? o with
    | some (old, value) => (e.erase old).set o.dottedName value
    | none => e) key = _
  cases e.moved? o with
  | none => rfl
  | some moved => simp only [get?_set, get?_erase]

theorem get?_fillDefault (key : String) : (e.fillDefault o).get? key =
    if key = o.dottedName then (e.get? o.dottedName).or o.default else e.get? key := by
  unfold fillDefault contains NameMap.contains
  change _ = if key = o.dottedName then (e.values.get? o.dottedName).or o.default else e.get? key
  by_cases own : key = o.dottedName
  · subst own
    cases given : e.values.get? o.dottedName <;> cases o.default <;> simp [given, get?, set]
  · cases given : e.values.get? o.dottedName <;> cases o.default <;> simp [own, get?, set]

theorem get?_settle (key : String) : (e.settle o).get? key =
    if key = o.dottedName then e.settled? o
    else if (e.moved? o).map (·.1) = some key then none else e.get? key := by
  rw [settle, get?_fillDefault, get?_migrate, get?_migrate, settled?]
  cases e.moved? o with
  | none => simp
  | some moved => by_cases own : key = o.dottedName <;> simp [own, eq_comm]

theorem settle_elsewhere (other : o.isCalled key = false) : (e.settle o).get? key = e.get? key := by
  have foreign : ¬(key = o.dottedName ∨ key ∈ o.deprecatedNames) := by
    rw [← StartupOption.isCalled_exact, other]
    exact Bool.false_ne_true
  obtain ⟨own, deprecated⟩ := not_or.mp foreign
  rw [get?_settle, if_neg own, if_neg]
  intro moved
  obtain ⟨pair, found, same⟩ := Option.map_eq_some_iff.mp moved
  exact deprecated (same ▸ (moved?_some found).1)

-- What becomes of an option's names depends on what was given under them.
theorem settle_congr (same : ∀ name, o.isCalled name = true → e.get? name = e'.get? name)
    (called : o.isCalled key = true) : (e.settle o).get? key = (e'.settle o).get? key := by
  have moved : e.moved? o = e'.moved? o := by
    unfold moved?
    rw [← List.head?_filterMap, ← List.head?_filterMap]
    congr 1
    refine List.filterMap_congr fun old deprecated => ?_
    rw [same old (StartupOption.isCalled_exact.mpr (.inr deprecated))]
  rw [get?_settle, get?_settle, settled?, settled?, moved, same _ StartupOption.isCalled_own,
    same key called]

theorem complete_cons (e : Environment) (o : StartupOption) (rest : List StartupOption) :
    e.complete (o :: rest) = (e.settle o).complete rest := rfl

theorem complete_elsewhere (other : ∀ o ∈ options, o.isCalled key = false) :
    (e.complete options).get? key = e.get? key := by
  induction options generalizing e with
  | nil => rfl
  | cons o rest ih =>
    obtain ⟨first, others⟩ := List.forall_mem_cons.mp other
    rw [complete_cons, ih others, settle_elsewhere first]

theorem complete_settles (apart : options.Pairwise StartupOption.Apart) (member : o ∈ options)
    (called : o.isCalled key = true) :
    (e.complete options).get? key = (e.settle o).get? key := by
  induction options generalizing e with
  | nil => cases member
  | cons p rest ih =>
    obtain ⟨first, others⟩ := List.pairwise_cons.mp apart
    rw [complete_cons]
    rcases List.mem_cons.mp member with rfl | later
    · exact complete_elsewhere fun q there => (first q there).other called
    · rw [ih others later]
      refine settle_congr ?_ called
      intro name mine
      exact settle_elsewhere ((first o later).symm.other mine)

theorem mem_names (given : e.get? name = some value) : name ∈ e.values.names :=
  NameMap.contains_iff.mp (contains_exact.mpr ⟨value, given⟩)

end

section

variable {s : OptionSection} {e : Environment} {o : StartupOption} {name old old' : String}
  {value value' : Value}

-- A name that no option goes by stays where it is, and is refused there.
theorem given_called (passed : (e.validate s).1 = .ok ()) (given : e.get? name = some value) :
    ∃ o, s.Holds o ∧ o.isCalled name = true := by
  by_contra foreign
  have other : ∀ o ∈ s.allOptions, o.isCalled name = false := by
    intro o member
    rw [← Bool.not_eq_true]
    exact fun called => foreign ⟨o, OptionSection.mem_allOptions.mp member, called⟩
  have left := (complete_elsewhere other).trans given
  obtain ⟨o, holds, rfl⟩ := (checks_exact.mp passed).known name (mem_names left)
  exact foreign ⟨o, holds, StartupOption.isCalled_own⟩

theorem given_moved (apart : s.allOptions.Pairwise StartupOption.Apart)
    (passed : (e.validate s).1 = .ok ()) (holds : s.Holds o) (deprecated : old ∈ o.deprecatedNames)
    (other : old ≠ o.dottedName) (given : e.get? old = some value) :
    e.moved? o = some (old, value) := by
  have member := OptionSection.mem_allOptions.mpr holds
  have called := StartupOption.isCalled_exact.mpr (.inr deprecated)
  have left : (e.complete s.allOptions).get? old = _ :=
    (complete_settles apart member called).trans (get?_settle old)
  rw [if_neg other] at left
  split at left
  · rename_i away
    obtain ⟨⟨key, stood⟩, moved, rfl⟩ := Option.map_eq_some_iff.mp away
    obtain ⟨-, present⟩ := moved?_some moved
    cases given.symm.trans present
    exact moved
  · rw [given] at left
    obtain ⟨p, there, rfl⟩ := (checks_exact.mp passed).known old (mem_names left)
    have same := StartupOption.called_unique apart member (OptionSection.mem_allOptions.mpr there)
      called StartupOption.isCalled_own
    exact absurd (congrArg StartupOption.dottedName same.symm) other

theorem settled?_own (undisputed : e.Undisputed o) (given : e.get? o.dottedName = some value) :
    e.settled? o = some value := by
  unfold settled?
  cases moved : e.moved? o with
  | none => simp [given]
  | some pair =>
    obtain ⟨deprecated, present⟩ := moved?_some moved
    simp [undisputed _ deprecated _ _ present given]

theorem settled?_old (apart : s.allOptions.Pairwise StartupOption.Apart)
    (passed : (e.validate s).1 = .ok ()) (holds : s.Holds o) (undisputed : e.Undisputed o)
    (deprecated : old ∈ o.deprecatedNames) (given : e.get? old = some value) :
    e.settled? o = some value := by
  by_cases own : old = o.dottedName
  · exact settled?_own undisputed (own ▸ given)
  · simp [settled?, given_moved apart passed holds deprecated own given]

-- Where validation succeeds, every name that was given belongs to an option, and no option was given
-- under two old names. The option then has the value under its old name, else the one under its own,
-- else its default. So all values are kept if and only if no option was given two that differ.
theorem validation_keeps_values (apart : s.allOptions.Pairwise StartupOption.Apart)
    (passed : (e.validate s).1 = .ok ()) :
    let after := (e.validate s).2
    (∀ name value, e.get? name = some value → ∃ o, s.Holds o ∧ o.isCalled name = true) ∧
    (∀ o, s.Holds o → after.get? o.dottedName = e.settled? o ∧
      ∀ old ∈ o.deprecatedNames, ∀ old' ∈ o.deprecatedNames, old ≠ o.dottedName →
        old' ≠ o.dottedName → e.contains old = true → e.contains old' = true → old = old') ∧
    ((∀ o name value, s.Holds o → o.isCalled name = true → e.get? name = some value →
        after.get? o.dottedName = some value) ↔
      ∀ o, s.Holds o → e.Undisputed o) := by
  have settled (o : StartupOption) (holds : s.Holds o) :
      (e.validate s).2.get? o.dottedName = e.settled? o := by
    refine (complete_settles apart (OptionSection.mem_allOptions.mpr holds)
      StartupOption.isCalled_own).trans ?_
    rw [get?_settle, if_pos rfl]
  refine ⟨fun name value => given_called passed, fun o holds => ⟨settled o holds, ?_⟩, ?_, ?_⟩
  · intro old deprecated old' deprecated' other other' given given'
    obtain ⟨value, given⟩ := contains_exact.mp given
    obtain ⟨value', given'⟩ := contains_exact.mp given'
    have moved := given_moved apart passed holds deprecated other given
    have moved' := given_moved apart passed holds deprecated' other' given'
    cases moved.symm.trans moved'
    rfl
  · intro kept o holds old deprecated value own given here
    have first := kept o old value holds (StartupOption.isCalled_exact.mpr (.inr deprecated)) given
    have second := kept o o.dottedName own holds StartupOption.isCalled_own here
    exact Option.some.inj (first.symm.trans second)
  · intro undisputed o name value holds called given
    rw [settled o holds]
    rcases StartupOption.isCalled_exact.mp called with rfl | deprecated
    · exact settled?_own (undisputed o holds) given
    · exact settled?_old apart passed holds (undisputed o holds) deprecated given

end

section

def port : StartupOption :=
  { dottedName := "net.port", singleName := "port", type := .int, description := "Port"
    deprecatedNames := ["port", "listenPort"], default := some (.int32 27017) }

def mode : StartupOption :=
  { dottedName := "net.tls.mode", singleName := "tlsMode", type := .string, description := "Mode"
    deprecatedNames := ["net.ssl.mode"] }

def level : StartupOption :=
  { dottedName := "log.level", singleName := "level", type := .int, description := "Level"
    default := some (.int32 0) }

def server : OptionSection :=
  .mk "General" [port] [.mk "Security" [] [.mk "TLS" [mode] []], .mk "Logging" [level] []]

-- The port is given twice, to the same effect.
def given : Environment :=
  ((empty.set "net.port" (.int32 27018)).set "listenPort" (.int32 27018)).set
    "net.ssl.mode" (.string "requireTLS")

theorem validation_keeps_values_server :
    server.allOptions.Pairwise StartupOption.Apart ∧ (given.validate server).1 = .ok () ∧
      (∀ o, server.Holds o → given.Undisputed o) ∧
      (∀ o name value, server.Holds o → o.isCalled name = true → given.get? name = some value →
        (given.validate server).2.get? o.dottedName = some value) ∧
      (given.validate server).2.get? "log.level" = some (.int32 0) := by
  have apart : server.allOptions.Pairwise StartupOption.Apart := by decide
  have passed : (given.validate server).1 = .ok () := rfl
  have undisputed (o : StartupOption) (holds : server.Holds o) : given.Undisputed o := by
    have member : o ∈ [port, mode, level] := OptionSection.mem_allOptions.mpr holds
    intro old deprecated value own before here
    simp only [List.mem_cons, List.not_mem_nil, or_false] at member
    rcases member with rfl | rfl | rfl
    · have olds : old = "port" ∨ old = "listenPort" := by simpa [port] using deprecated
      rcases olds with rfl | rfl
      · cases before
      · cases before
        cases here
        rfl
    · cases here
    · cases deprecated
  obtain ⟨-, settled, kept⟩ := validation_keeps_values apart passed
  refine ⟨apart, passed, undisputed, kept.mpr undisputed, ?_⟩
  exact (settled level (OptionSection.mem_allOptions.mp (by simp [OptionSection.allOptions,
    OptionSection.allOptionsOf, server]))).1

-- The port under the old name takes the place of the one under the option's own name.
theorem given_value_lost :
    let e := (empty.set "net.port" (.int32 27018)).set "port" (.int32 27019)
    server.allOptions.Pairwise StartupOption.Apart ∧ (e.validate server).1 = .ok () ∧
      port ∈ server.allOptions ∧ port.isCalled "net.port" = true ∧
      e.get? "net.port" = some (.int32 27018) ∧
      (e.validate server).2.get? port.dottedName = some (.int32 27019) :=
  ⟨by decide, rfl, List.mem_cons_self, rfl, rfl, rfl⟩

end

end Environment

end WireSchema.Settings
