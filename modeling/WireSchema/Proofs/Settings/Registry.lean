import WireSchema.Proofs.Settings.Stored
import WireSchema.Settings.Registry

namespace WireSchema.Settings

open Bson (Document)
open Record (Fault)

-- Parameters and aliases share one space of names. That is kept by each call whether it succeeds or
-- not, and it is why an alias can do all that its parameter's name can, and why the parameters are
-- shown once each.

namespace Parameter

def shownAs (name : String) : Parameter → Document
  | stored _ p => [(name, if p.header.redacted then redaction else Storable.toBson p.current)]
  | hooked p => if p.header.redacted then [(name, redaction)] else (p.show?.map (· name)).getD []

theorem elements_shownAs (p : Parameter) : p.elements = p.shownAs p.name := by
  cases p <;> rfl

theorem setText_header (p : Parameter) (text : String) : (p.setText text).2.header = p.header := by
  cases p with
  | stored type p => exact p.setText_header text
  | hooked p => rfl

end Parameter

namespace Registry

inductive Call where
  | add (p : Parameter)
  | addAlias (given name : String)
  | set (name text : String)

def settle (r : Registry) : Except Fault Registry → Except Fault Unit × Registry
  | .ok next => (.ok (), next)
  | .error fault => (.error fault, r)

def call (r : Registry) : Call → Except Fault Unit × Registry
  | .add p => r.settle (r.add p)
  | .addAlias given name => r.settle (r.addAlias given name)
  | .set name text => r.setText name text

def run (r : Registry) (calls : List Call) : Registry :=
  calls.foldl (fun r c => (r.call c).2) r

def Call.registered : Call → Except Fault Unit → Option Parameter
  | .add p, .ok () => some p
  | _, _ => none

def added (r : Registry) : List Call → List Parameter
  | [] => []
  | c :: rest => (c.registered (r.call c).1).toList ++ added (r.call c).2 rest

def Taken (r : Registry) (name : String) : Prop :=
  name ∈ r.parameters.names ∨ name ∈ r.aliases.names

structure Kept (r : Registry) : Prop where
  parameters : r.parameters.Ascending
  aliases : r.aliases.Ascending
  apart : ∀ name ∈ r.parameters.names, name ∉ r.aliases.names
  own : ∀ e ∈ r.parameters.entries, e.2.name = e.1
  targets : ∀ e ∈ r.aliases.entries, e.2 ∈ r.parameters.names

structure Answers (r : Registry) : Prop where
  addTaken : ∀ p, r.Taken p.name →
    r.call (.add p) = (.error (.parameter (.duplicate p.name)), r)
  addFree : ∀ p, ¬ r.Taken p.name → (r.call (.add p)).1 = .ok () ∧
    ∀ key, (r.call (.add p)).2.get? key = if key = p.name then some p else r.get? key
  aliasUnknown : ∀ given name, name ∉ r.parameters.names →
    r.call (.addAlias given name) = (.error (.parameter (.unknownTarget given name)), r)
  aliasTaken : ∀ given name, name ∈ r.parameters.names → r.Taken given →
    r.call (.addAlias given name) = (.error (.parameter (.duplicate given)), r)
  aliasFree : ∀ given name, name ∈ r.parameters.names → ¬ r.Taken given →
    (r.call (.addAlias given name)).1 = .ok () ∧ ∀ key,
      (r.call (.addAlias given name)).2.get? key = if key = given then r.get? name else r.get? key
  through : ∀ given name, r.aliases.get? given = some name →
    (r.get? name).isSome ∧ r.get? given = r.get? name ∧
      ∀ text, r.setText given text = r.setText name text

inductive Step (r : Registry) : Call → Except Fault Unit × Registry → Prop where
  | added {p : Parameter} : ¬ r.Taken p.name →
      Step r (.add p) (.ok (), { r with parameters := r.parameters.insert p.name p })
  | aliased {given name : String} : name ∈ r.parameters.names → ¬ r.Taken given →
      Step r (.addAlias given name) (.ok (), { r with aliases := r.aliases.insert given name })
  -- The result of setting a value may be a fault also when the value has changed.
  | set {name text : String} {p : Parameter} : r.get? name = some p →
      Step r (.set name text) ((p.setText text).1,
        { r with parameters := r.parameters.insert (r.canonical name) (p.setText text).2 })
  | refused {c : Call} {fault : Fault} : Step r c (.error fault, r)

section

variable {r : Registry} {p : Parameter} {given name : String}

theorem isTaken_iff : r.isTaken name = true ↔ r.Taken name := by
  rw [isTaken, Bool.or_eq_true, NameMap.contains_iff, NameMap.contains_iff]
  rfl

theorem add_taken (taken : r.Taken p.name) :
    r.call (.add p) = (.error (.parameter (.duplicate p.name)), r) := by
  rw [call, add, if_pos (isTaken_iff.mpr taken)]
  rfl

theorem add_free (free : ¬ r.Taken p.name) :
    r.call (.add p) = (.ok (), { r with parameters := r.parameters.insert p.name p }) := by
  rw [call, add, if_neg (mt isTaken_iff.mp free)]
  rfl

theorem addAlias_unknown (unknown : name ∉ r.parameters.names) :
    r.call (.addAlias given name) = (.error (.parameter (.unknownTarget given name)), r) := by
  have missing : (!r.parameters.contains name) = true := by
    simpa using mt NameMap.contains_iff.mp unknown
  rw [call, addAlias, if_pos missing]
  rfl

theorem addAlias_known (known : name ∈ r.parameters.names) :
    r.addAlias given name = if r.isTaken given then .error (.parameter (.duplicate given))
      else .ok { r with aliases := r.aliases.insert given name } := by
  simp [addAlias, NameMap.contains_iff.mpr known]

theorem addAlias_taken (known : name ∈ r.parameters.names) (taken : r.Taken given) :
    r.call (.addAlias given name) = (.error (.parameter (.duplicate given)), r) := by
  rw [call, addAlias_known known, if_pos (isTaken_iff.mpr taken)]
  rfl

theorem addAlias_free (known : name ∈ r.parameters.names) (free : ¬ r.Taken given) :
    r.call (.addAlias given name) =
      (.ok (), { r with aliases := r.aliases.insert given name }) := by
  rw [call, addAlias_known known, if_neg (mt isTaken_iff.mp free)]
  rfl

theorem call_step (r : Registry) (c : Call) : r.Step c (r.call c) := by
  cases c with
  | add p =>
    by_cases taken : r.Taken p.name
    · rw [add_taken taken]
      exact .refused
    · rw [add_free taken]
      exact .added taken
  | addAlias given name =>
    by_cases known : name ∈ r.parameters.names
    · by_cases taken : r.Taken given
      · rw [addAlias_taken known taken]
        exact .refused
      · rw [addAlias_free known taken]
        exact .aliased known taken
    · rw [addAlias_unknown known]
      exact .refused
  | set name text =>
    cases found : r.get? name with
    | none =>
      rw [call, setText, found]
      exact .refused
    | some p =>
      rw [call, setText, found]
      exact .set found

end

section

variable {r : Registry} {p old : Parameter} {given name key : String}

theorem kept_empty : Kept .empty where
  parameters := NameMap.ascending_empty
  aliases := NameMap.ascending_empty
  apart := by simp [empty, NameMap.names]
  own := by simp [empty]
  targets := by simp [empty]

theorem Kept.add (kept : r.Kept) (free : ¬ r.Taken p.name) :
    Kept { r with parameters := r.parameters.insert p.name p } where
  parameters := kept.parameters.insert p.name p
  aliases := kept.aliases
  apart key member := by
    rcases NameMap.mem_names_insert.mp member with rfl | before
    · exact fun clash => free (.inr clash)
    · exact kept.apart key before
  own e member := by
    rcases NameMap.mem_insertEntry member with rfl | before
    · rfl
    · exact kept.own e before
  targets e member := NameMap.mem_names_insert.mpr (.inr (kept.targets e member))

theorem Kept.addAlias (kept : r.Kept) (known : name ∈ r.parameters.names) (free : ¬ r.Taken given) :
    Kept { r with aliases := r.aliases.insert given name } where
  parameters := kept.parameters
  aliases := kept.aliases.insert given name
  apart key member := by
    intro clash
    rcases NameMap.mem_names_insert.mp clash with rfl | before
    · exact free (.inl member)
    · exact kept.apart key member before
  own := kept.own
  targets e member := by
    rcases NameMap.mem_insertEntry member with rfl | before
    · exact known
    · exact kept.targets e before

theorem Kept.set (kept : r.Kept) (found : r.parameters.get? key = some old)
    (same : p.header = old.header) :
    Kept { r with parameters := r.parameters.insert key p } := by
  have names : (r.parameters.insert key p).names = r.parameters.names :=
    NameMap.map_insertEntry kept.parameters found rfl
  refine ⟨kept.parameters.insert key p, kept.aliases, ?_, ?_, ?_⟩
  · rw [names]
    exact kept.apart
  · intro e member
    rcases NameMap.mem_insertEntry member with rfl | before
    · have own : old.name = key := kept.own (key, old) (NameMap.mem_of_get? found)
      rw [← own]
      exact congrArg Header.name same
    · exact kept.own e before
  · rw [names]
    exact kept.targets

theorem Kept.step {c : Call} {outcome : Except Fault Unit × Registry} (kept : r.Kept)
    (step : r.Step c outcome) : outcome.2.Kept := by
  cases step with
  | added free => exact kept.add free
  | aliased known free => exact kept.addAlias known free
  | @set name text p found => exact kept.set found (p.setText_header text)
  | refused => exact kept

theorem Kept.run (kept : r.Kept) (calls : List Call) : (r.run calls).Kept := by
  induction calls generalizing r with
  | nil => exact kept
  | cons c rest ih => exact ih (kept.step (r.call_step c))

def headers (r : Registry) : List Header :=
  r.parameters.values.map (·.header)

theorem Kept.headers_step {c : Call} {outcome : Except Fault Unit × Registry} (kept : r.Kept)
    (step : r.Step c outcome) :
    outcome.2.headers.Perm (r.headers ++ (c.registered outcome.1).toList.map (·.header)) := by
  cases step with
  | @added p free =>
    have entries : (NameMap.insertEntry p.name p r.parameters.entries).Perm
        ((p.name, p) :: r.parameters.entries) :=
      NameMap.insertEntry_perm fun member => free (.inl member)
    exact ((entries.map (·.2)).map (·.header)).trans (List.perm_append_singleton _ _).symm
  | aliased known free => simp [Call.registered, headers]
  | @set name text p found =>
    have same := NameMap.map_insertEntry (f := fun e => e.2.header) kept.parameters found
      (p.setText_header text)
    simp only [headers, NameMap.values, List.map_map, Call.registered, Option.toList_none,
      List.map_nil, List.append_nil]
    exact .of_eq same
  | refused => simp [Call.registered]

theorem Kept.headers_run (kept : r.Kept) (calls : List Call) :
    (r.run calls).headers.Perm (r.headers ++ (added r calls).map (·.header)) := by
  induction calls generalizing r with
  | nil => simp [Registry.run, added]
  | cons c rest ih =>
    have first := (kept.headers_step (r.call_step c)).append_right
      ((added (r.call c).2 rest).map (·.header))
    rw [List.append_assoc, ← List.map_append] at first
    exact (ih (kept.step (r.call_step c))).trans first

theorem canonical_alias (found : r.aliases.get? key = some name) : r.canonical key = name := by
  rw [canonical, found]
  rfl

theorem canonical_plain (plain : key ∉ r.aliases.names) : r.canonical key = key := by
  rw [canonical, NameMap.get?_eq_none_iff.mpr plain]
  rfl

theorem Kept.get?_registered (kept : r.Kept) (known : name ∈ r.parameters.names) :
    r.get? name = r.parameters.get? name := by
  rw [get?, canonical_plain (kept.apart name known)]

theorem Kept.canonical_free (kept : r.Kept) (free : ¬ r.Taken name) :
    r.canonical key = name ↔ key = name := by
  cases found : r.aliases.get? key with
  | none => rw [canonical_plain (NameMap.get?_eq_none_iff.mp found)]
  | some target =>
    have member := NameMap.mem_of_get? found
    have registered : target ∈ r.parameters.names := kept.targets (key, target) member
    rw [canonical_alias found]
    constructor
    · rintro rfl
      exact absurd (.inl registered) free
    · rintro rfl
      exact absurd (.inr (List.mem_map_of_mem member)) free

theorem Kept.get?_add (kept : r.Kept) (free : ¬ r.Taken p.name) (key : String) :
    get? { r with parameters := r.parameters.insert p.name p } key =
      if key = p.name then some p else r.get? key := by
  show (r.parameters.insert p.name p).get? (r.canonical key) = _
  simp only [NameMap.get?_insert, kept.canonical_free free]
  rfl

theorem Kept.get?_addAlias (kept : r.Kept) (known : name ∈ r.parameters.names) (key : String) :
    get? { r with aliases := r.aliases.insert given name } key =
      if key = given then r.get? name else r.get? key := by
  rw [kept.get?_registered known, get?, canonical, NameMap.get?_insert]
  split <;> rfl

theorem Kept.through (kept : r.Kept) (found : r.aliases.get? given = some name) :
    (r.get? name).isSome ∧ r.get? given = r.get? name ∧
      ∀ text, r.setText given text = r.setText name text := by
  have known : name ∈ r.parameters.names :=
    kept.targets (given, name) (NameMap.mem_of_get? found)
  have leads : r.canonical given = r.canonical name := by
    rw [canonical_alias found, canonical_plain (kept.apart name known)]
  have same : r.get? given = r.get? name := by rw [get?, get?, leads]
  have some : (r.get? name).isSome := by
    rw [kept.get?_registered known]
    exact NameMap.contains_iff.mpr known
  refine ⟨some, same, ?_⟩
  intro text
  obtain ⟨p, registered⟩ := Option.isSome_iff_exists.mp some
  simp only [setText, same, registered, leads]

theorem Kept.answers (kept : r.Kept) : r.Answers where
  addTaken _ := add_taken
  addFree p free := by
    rw [add_free free]
    exact ⟨rfl, kept.get?_add free⟩
  aliasUnknown _ _ := addAlias_unknown
  aliasTaken _ _ := addAlias_taken
  aliasFree given name known free := by
    rw [addAlias_free known free]
    exact ⟨rfl, kept.get?_addAlias known⟩
  through _ _ := kept.through

theorem Kept.mem_entries (kept : r.Kept) : (name, p) ∈ r.parameters.entries ↔
    r.get? name = some p ∧ name ∉ r.aliases.names := by
  constructor
  · intro member
    have known : name ∈ r.parameters.names := List.mem_map_of_mem member
    rw [kept.get?_registered known]
    exact ⟨kept.parameters.get?_of_mem member, kept.apart name known⟩
  · rintro ⟨found, plain⟩
    rw [get?, canonical_plain plain] at found
    exact NameMap.mem_of_get? found

theorem Kept.elements (kept : r.Kept) :
    r.elements = r.parameters.entries.flatMap fun e => e.2.shownAs e.1 := by
  rw [Registry.elements, NameMap.values, List.flatMap_map, List.flatMap_def, List.flatMap_def]
  congr 1
  apply List.map_congr_left
  intro e member
  rw [← kept.own e member]
  exact e.2.elements_shownAs

end

-- Whatever was called so far, and whether or not it succeeded. The parameters are those that were
-- added, one entry for each, and they show themselves under the names of their entries.
theorem names_stay_apart (calls : List Call) :
    let r := Registry.empty.run calls
    r.Kept ∧ r.Answers ∧
    r.headers.Perm ((added .empty calls).map (·.header)) ∧ r.size = (added .empty calls).length ∧
    r.elements = (r.parameters.entries.flatMap fun e => e.2.shownAs e.1) ∧
    ∀ name p, (name, p) ∈ r.parameters.entries ↔ r.get? name = some p ∧ name ∉ r.aliases.names := by
  intro r
  have kept : r.Kept := kept_empty.run calls
  have headers : r.headers.Perm ((added .empty calls).map (·.header)) :=
    kept_empty.headers_run calls
  have size : r.size = (added .empty calls).length := by
    simpa [Registry.headers, Registry.size, NameMap.values, NameMap.size] using headers.length_eq
  exact ⟨kept, kept.answers, headers, size, kept.elements, fun _ _ => kept.mem_entries⟩

def port : Parameter :=
  .stored .int32 { header := { name := "port", setAt := .startupOnly } }

def hook (name : String) : Parameter :=
  .hooked { header := { name, setAt := .runtimeOnly, redacted := true } }

-- An alias of a parameter, one that is the parameter's own name, one of an alias, and a parameter
-- that comes after an alias of its name.
def listening : List Call :=
  [.add port, .addAlias "listenPort" "port", .addAlias "port" "port",
    .addAlias "oldPort" "listenPort", .add (hook "listenPort"), .add (hook "host"),
    .set "listenPort" "1234"]

theorem names_stay_apart_ports :
    let r := Registry.empty.run listening
    r.parameters.names = ["host", "port"] ∧ r.aliases.entries = [("listenPort", "port")] ∧
      r.size = 2 ∧ r.elements = [("host", redaction), ("port", .int32 1234)] ∧
      r.get? "listenPort" = r.get? "port" ∧
      (∀ text, r.setText "listenPort" text = r.setText "port" text) ∧
      r.call (.addAlias "port" "port") = (.error (.parameter (.duplicate "port")), r) ∧
      r.call (.addAlias "oldPort" "listenPort") =
        (.error (.parameter (.unknownTarget "oldPort" "listenPort")), r) ∧
      r.call (.add (hook "listenPort")) = (.error (.parameter (.duplicate "listenPort")), r) := by
  intro r
  obtain ⟨-, answers, -, size, -⟩ := names_stay_apart listening
  have names : r.parameters.names = ["host", "port"] := by decide
  have aliases : r.aliases.entries = [("listenPort", "port")] := by decide
  obtain ⟨-, same, sets⟩ := answers.through "listenPort" "port" (by decide)
  refine ⟨names, aliases, size, by rfl, same, sets, answers.aliasTaken _ _ ?_ (.inl ?_),
    answers.aliasUnknown _ _ ?_, answers.addTaken _ (.inr ?_)⟩
  all_goals decide

end Registry

end WireSchema.Settings
