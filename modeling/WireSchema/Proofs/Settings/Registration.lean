import Mathlib.Data.List.Perm.Basic
import WireSchema.Emit.Setting
import WireSchema.Proofs.Bound.Layout
import WireSchema.Proofs.Settings.Registry

namespace WireSchema.Emit

open Record (Fault)
open Settings (Registry)
open WireSchema.Bound (Idl Parameter)

def RegistryCall.run (built : Settings.Parameter) (r : Registry) :
    RegistryCall → Except Fault Registry
  | .add _ => r.add built
  | .addAlias old name => r.addAlias old name

-- What `build` makes of a parameter is all that a schema leaves to other code.
def register (build : Parameter → Settings.Parameter) (r : Registry) (p : Parameter) :
    Except Fault Registry :=
  (registryCalls p).foldlM (RegistryCall.run (build p)) r

def registerAll (build : Parameter → Settings.Parameter) (parameters : List Parameter) :
    Except Fault Registry :=
  parameters.foldlM (register build) .empty

def claimed (p : Parameter) : List String :=
  p.name :: p.deprecatedNames

-- Names are granted one after the other, up to the first that is taken.
inductive Grants : Registry → List String → Except Fault Registry → Prop where
  | done {r : Registry} : Grants r [] (.ok r)
  | taken {r : Registry} {name : String} {rest : List String} (taken : r.Taken name) :
      Grants r (name :: rest) (.error (.parameter (.duplicate name)))
  | next {r next : Registry} {name : String} {rest : List String} {out : Except Fault Registry}
      (free : ¬ r.Taken name) (holds : ∀ key, next.Taken key ↔ key = name ∨ r.Taken key)
      (others : Grants next rest out) : Grants r (name :: rest) out

namespace Grants

variable {r next : Registry} {names more : List String} {out : Except Fault Registry} {e : Fault}

theorem append (first : Grants r names (.ok next)) (second : Grants next more out) :
    Grants r (names ++ more) out := by
  generalize reached : Except.ok next = middle at first
  induction first with
  | done =>
    cases reached
    exact second
  | taken => cases reached
  | next free holds _ ih => exact .next free holds (ih reached)

theorem append_error (first : Grants r names (.error e)) (more : List String) :
    Grants r (names ++ more) (.error e) := by
  generalize reached : Except.error e = middle at first
  induction first with
  | done => cases reached
  | taken taken =>
    cases reached
    exact .taken taken
  | next free holds _ ih => exact .next free holds (ih reached)

theorem ok_exact (grants : Grants r names out) :
    (∃ r', out = .ok r') ↔ names.Nodup ∧ ∀ name ∈ names, ¬ r.Taken name := by
  induction grants with
  | done => simp
  | taken taken => simp [taken]
  | @next r next name rest out free holds _ ih =>
    rw [ih, List.nodup_cons, List.forall_mem_cons]
    simp only [holds, not_or]
    constructor
    · rintro ⟨distinct, apart⟩
      exact ⟨⟨fun again => (apart name again).1 rfl, distinct⟩, free,
        fun key member => (apart key member).2⟩
    · rintro ⟨⟨alone, distinct⟩, -, apart⟩
      exact ⟨distinct, fun key member => ⟨fun same => alone (same ▸ member), apart key member⟩⟩

theorem error_first (grants : Grants r names (.error e)) :
    ∃ before name after, names = before ++ name :: after ∧ before.Nodup ∧
      (∀ key ∈ before, ¬ r.Taken key) ∧ (name ∈ before ∨ r.Taken name) ∧
      e = .parameter (.duplicate name) := by
  generalize reached : Except.error e = out at grants
  induction grants with
  | done => cases reached
  | @taken r name rest taken =>
    cases reached
    exact ⟨[], name, rest, rfl, .nil, by simp, .inr taken, rfl⟩
  | @next r next name rest out free holds _ ih =>
    obtain ⟨before, again, after, rfl, distinct, apart, clash, rfl⟩ := ih reached
    simp only [holds, not_or] at apart clash
    refine ⟨name :: before, again, after, rfl, ?_, ?_, ?_, rfl⟩
    · exact List.nodup_cons.mpr ⟨fun member => (apart name member).1 rfl, distinct⟩
    · exact List.forall_mem_cons.mpr ⟨free, fun key member => (apart key member).2⟩
    · rcases clash with earlier | rfl | old
      · exact .inl (List.mem_cons_of_mem name earlier)
      · exact .inl List.mem_cons_self
      · exact .inr old

end Grants

section

variable {build : Parameter → Settings.Parameter} {r : Registry} {p : Parameter}

theorem addAliases_grants {name : String} {olds : List String} (built : Settings.Parameter)
    (known : name ∈ r.parameters.names) :
    Grants r olds ((olds.map (.addAlias · name)).foldlM (RegistryCall.run built) r) := by
  induction olds generalizing r with
  | nil => exact .done
  | cons old olds ih =>
    rw [List.map_cons, List.foldlM_cons, RegistryCall.run, Registry.addAlias_known known]
    by_cases taken : r.Taken old
    · rw [if_pos (Registry.isTaken_iff.mpr taken)]
      exact .taken taken
    · rw [if_neg (mt Registry.isTaken_iff.mp taken)]
      refine .next taken ?_ (ih known)
      intro key
      simp only [Registry.Taken, NameMap.mem_names_insert]
      exact or_left_comm

theorem register_grants (named : (build p).name = p.name) :
    Grants r (claimed p) (register build r p) := by
  unfold register registryCalls claimed
  rw [List.foldlM_cons, RegistryCall.run, Registry.add, named]
  by_cases taken : r.Taken p.name
  · rw [if_pos (Registry.isTaken_iff.mpr taken)]
    exact .taken taken
  · rw [if_neg (mt Registry.isTaken_iff.mp taken)]
    refine .next taken ?_ (addAliases_grants _ (NameMap.mem_names_insert.mpr (.inl rfl)))
    intro key
    simp only [Registry.Taken, NameMap.mem_names_insert]
    exact or_assoc

theorem registerAll_grants {parameters : List Parameter}
    (named : ∀ p ∈ parameters, (build p).name = p.name) :
    Grants .empty (parameters.flatMap claimed) (registerAll build parameters) := by
  have general (r : Registry) :
      Grants r (parameters.flatMap claimed) (parameters.foldlM (register build) r) := by
    induction parameters generalizing r with
    | nil => exact .done
    | cons p rest ih =>
      obtain ⟨first, others⟩ := List.forall_mem_cons.mp named
      have here := register_grants (r := r) first
      rw [List.flatMap_cons, List.foldlM_cons]
      cases result : register build r p with
      | error e =>
        rw [result] at here
        exact here.append_error _
      | ok next =>
        rw [result] at here
        exact here.append (ih others next)
  exact general .empty

end

end WireSchema.Emit

namespace WireSchema.Bound

-- Binding sees to it that the parameters' own names differ; nothing sees to it for the old ones.

theorem bind_parameter_names {spec : Schema.Spec} {idl : Idl} (bound : bind spec = .ok idl) :
    (idl.parameters.map (·.name)).Nodup := by
  have ran := Schema.Report.toExcept_exact.mp bound
  obtain ⟨_, _, ran⟩ := Schema.Report.bind_clean.mp ran
  obtain ⟨_, _, ran⟩ := Schema.Report.bind_clean.mp ran
  obtain ⟨_, _, ran⟩ := Schema.Report.bind_clean.mp ran
  obtain ⟨_, _, ran⟩ := Schema.Report.bind_clean.mp ran
  obtain ⟨parameters, parametersBound, ran⟩ := Schema.Report.bind_clean.mp ran
  obtain ⟨_, _, ran⟩ := Schema.Report.bind_clean.mp ran
  cases Schema.Report.pure_clean.mp ran
  obtain ⟨distinct, -, each⟩ := (bindNamed_exact bindParameter_keeps).mp parametersBound
  have names : List.Forall₂ (fun a b => a.name = b.name) spec.parameters parameters :=
    (forall₂_of_bound each fun _ _ => bindParameter_parameterOf).imp fun _ _ ⟨_, _, same⟩ => by
      rw [same]
  have same : spec.parameters.map (·.name) = parameters.map (·.name) := by
    rw [← List.forall₂_eq_eq_eq, List.forall₂_map_left_iff, List.forall₂_map_right_iff]
    exact names
  rw [← same]
  exact distinct

end WireSchema.Bound

namespace WireSchema.Emit

open Record (Fault)
open WireSchema.Bound (Idl Parameter)

-- The parameters' own names differ already, so only old names can stand in the way.
theorem claimed_nodup {parameters : List Parameter}
    (distinct : (parameters.map (·.name)).Nodup) :
    (parameters.flatMap claimed).Nodup ↔ (parameters.flatMap (·.deprecatedNames)).Nodup ∧
      ∀ p ∈ parameters, p.name ∉ parameters.flatMap (·.deprecatedNames) := by
  have parts : (parameters.map (·.name) ++ parameters.flatMap (·.deprecatedNames)).Perm
      (parameters.flatMap claimed) := by
    rw [List.map_eq_flatMap]
    exact List.flatMap_append_perm parameters _ _
  rw [← parts.nodup_iff, List.nodup_append']
  constructor
  · rintro ⟨-, olds, apart⟩
    exact ⟨olds, fun p member => apart (List.mem_map_of_mem member)⟩
  · rintro ⟨olds, apart⟩
    refine ⟨distinct, olds, ?_⟩
    intro name own
    obtain ⟨p, member, rfl⟩ := List.mem_map.mp own
    exact apart p member

-- A bound schema registers if no old name is a parameter's name or another old name. Otherwise the
-- first name that comes a second time is refused.
theorem registration_exact {spec : Schema.Spec} {idl : Idl} (bound : Bound.bind spec = .ok idl)
    {build : Parameter → Settings.Parameter}
    (named : ∀ p ∈ idl.parameters, (build p).name = p.name) :
    ((∃ r, registerAll build idl.parameters = .ok r) ↔
      (idl.parameters.flatMap (·.deprecatedNames)).Nodup ∧
        ∀ p ∈ idl.parameters, p.name ∉ idl.parameters.flatMap (·.deprecatedNames)) ∧
    ∀ e, registerAll build idl.parameters = .error e →
      ∃ before name after, idl.parameters.flatMap claimed = before ++ name :: after ∧
        before.Nodup ∧ name ∈ before ∧ e = .parameter (.duplicate name) := by
  have grants := registerAll_grants named
  have free (name : String) : ¬ Settings.Registry.empty.Taken name := by
    simp [Settings.Registry.Taken, Settings.Registry.empty, NameMap.names]
  constructor
  · rw [grants.ok_exact, ← claimed_nodup (Bound.bind_parameter_names bound)]
    exact and_iff_left fun name _ => free name
  · intro e failed
    rw [failed] at grants
    obtain ⟨before, name, after, parts, distinct, -, clash, rfl⟩ := grants.error_first
    exact ⟨before, name, after, parts, distinct, clash.resolve_right (free name), rfl⟩

section

def stored (line : Nat) (name : String) (olds : List String) : Schema.ParameterDef :=
  { location := Schema.lineOf "harbor.idl" line, name, setAt := ["startup"], rustType := some "i32"
    rustVariable := some name, deprecatedNames := olds }

def hooked (line : Nat) (name : String) (olds : List String) : Schema.ParameterDef :=
  { location := Schema.lineOf "harbor.idl" line, name, setAt := ["runtime"]
    fromString := some "read", appendBson := some "show", deprecatedNames := olds }

def built (p : Parameter) : Settings.Parameter :=
  let header : Settings.Header :=
    { name := p.name, setAt := p.setAt, redacted := p.redact, testOnly := p.testOnly }
  match p.rustVariable with
  | some _ => .stored .int32 { header }
  | none => .hooked { header }

theorem built_name (p : Parameter) : (built p).name = p.name := by
  unfold built
  split <;> rfl

def harbor : Schema.Spec :=
  { parameters := [stored 1 "port" ["listenPort", "listenport"], hooked 2 "host" ["bindHost"]] }

theorem registration_exact_harbor :
    ∃ idl, Bound.bind harbor = .ok idl ∧ (∀ p ∈ idl.parameters, (built p).name = p.name) ∧
      idl.parameters.flatMap claimed = ["port", "listenPort", "listenport", "host", "bindHost"] ∧
      ∃ r, registerAll built idl.parameters = .ok r := by
  have bound : Bound.bind harbor = .ok (Bound.bindAll harbor).value :=
    Schema.Report.toExcept_of_clean (by decide +kernel)
  have named : ∀ p ∈ (Bound.bindAll harbor).value.parameters, (built p).name = p.name :=
    fun p _ => built_name p
  refine ⟨_, bound, named, by decide +kernel, ?_⟩
  exact (registration_exact bound named).1.mpr (by decide +kernel)

-- The old name of one parameter is the name of another.
def collision : Schema.Spec :=
  { parameters := [stored 1 "port" ["listenPort"], stored 2 "listenPort" []] }

theorem taken_name_unnoticed :
    ∃ idl, Bound.bind collision = .ok idl ∧ (∀ p ∈ idl.parameters, (built p).name = p.name) ∧
      registerAll built idl.parameters = .error (.parameter (.duplicate "listenPort")) := by
  have bound : Bound.bind collision = .ok (Bound.bindAll collision).value :=
    Schema.Report.toExcept_of_clean (by decide +kernel)
  exact ⟨_, bound, fun p _ => built_name p, rfl⟩

end

end WireSchema.Emit
