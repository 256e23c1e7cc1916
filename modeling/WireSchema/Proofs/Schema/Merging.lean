import WireSchema.Proofs.Schema.DefinedNames
import WireSchema.Proofs.Schema.Imports

namespace WireSchema.Schema

namespace Library

section

variable (library : Library)

def defined (file : String) : List String :=
  match library.read file with
  | .ok text => definedNames text
  | .error _ => []

def requests (file : String) : List Request :=
  match library.read file with
  | .ok text => (parseText text file).value.requests file
  | .error _ => []

def known (request : Request) : Option String :=
  library.resolve request.base request.imported

def imported (file : String) : List String :=
  (library.requests file).filterMap library.known

variable {library} {file text : String}

theorem defined_of (opened : library.read file = .ok text) :
    library.defined file = definedNames text := by
  rw [defined, opened]

theorem requests_of (opened : library.read file = .ok text) :
    library.requests file = (parseText text file).value.requests file := by
  rw [requests, opened]

end

end Library

namespace Closure

-- How far the imports of a file have been followed without a fault, when the requests in `done` were
-- served.
structure Merged (library : Library) (file : String) (done : List Request) (c : Closure) :
    Prop extends Served library.requests library.known file done c where
  apart : c.symbols.Distinct
  names : c.symbols.names.Perm ((file :: c.resolved).flatMap library.defined)
  read : ∀ f ∈ file :: c.resolved, ∃ text, library.read f = .ok text
  found : ∀ request ∈ done, (library.known request).isSome

section

variable {library : Library} {file path text : String} {c next : Closure} {spec : Spec}
  {symbols : SymbolTable} {request : Request} {done rest : List Request}

theorem start_merged (opened : library.read file = .ok text)
    (read : parseText text file = pure spec) : Merged library file [] (start spec file) := by
  obtain ⟨value, -⟩ := Report.clean_exact.mp read
  constructor
  case toServed => exact start_served (value ▸ Library.requests_of opened)
  case apart => exact value ▸ parseText_gives.2.distinct
  case names => simpa [start, Library.defined_of opened] using parseText_names read
  case read => simpa [start] using ⟨text, opened⟩
  case found => simp

theorem found_more (merged : Merged library file done c)
    (known : library.known request = some path) :
    ∀ r ∈ done ++ [request], (library.known r).isSome := by
  intro r member
  rcases List.mem_append.mp member with old | new
  · exact merged.found r old
  · rw [List.mem_singleton.mp new, known]
    rfl

theorem Merged.again (merged : Merged library file done c) (pending : c.pending = request :: rest)
    (known : library.known request = some path) (old : path ∈ file :: c.resolved) :
    Merged library file (done ++ [request]) { c with pending := rest } where
  toServed := by
    refine merged.toServed.skip pending fun f member => ?_
    obtain rfl : path = f := by simpa [known] using member
    exact old
  apart := merged.apart
  names := merged.names
  read := merged.read
  found := found_more merged known

theorem names_asImported (t : SymbolTable) : t.asImported.names = t.names := by
  simp [SymbolTable.names, SymbolTable.asImported, Function.comp_def]

theorem Merged.add (merged : Merged library file done c) (pending : c.pending = request :: rest)
    (known : library.known request = some path) (fresh : path ∉ file :: c.resolved)
    (opened : library.read path = .ok text) (parsed : parseText text path = pure spec)
    (added : c.symbols.addImported spec.symbols = pure symbols) :
    Merged library file (done ++ [request]) {
      symbols
      visited := path :: c.visited
      resolved := c.resolved ++ [path]
      pending := rest ++ spec.requests path } := by
  obtain ⟨rfl, apart⟩ := (SymbolTable.addImported_exact merged.apart).mp added
  obtain ⟨value, -⟩ := Report.clean_exact.mp parsed
  have own : spec.requests path = library.requests path := by
    rw [Library.requests_of opened, value]
  constructor
  case toServed => exact own ▸ merged.toServed.add pending known fresh
  case apart => exact apart
  case names =>
    refine (SymbolTable.names_append ..).trans ?_
    rw [names_asImported, ← List.cons_append, List.flatMap_append, List.flatMap_singleton,
      Library.defined_of opened]
    exact merged.names.append (parseText_names parsed)
  case read =>
    intro f member
    rw [← List.cons_append] at member
    rcases List.mem_append.mp member with old | new
    · exact merged.read f old
    · exact ⟨text, List.mem_singleton.mp new ▸ opened⟩
  case found => exact found_more merged known

theorem step_merged (merged : Merged library file done c) (pending : c.pending = request :: rest)
    (ran : c.step library request rest = pure next) :
    Merged library file (done ++ [request]) next := by
  unfold step at ran
  split at ran
  · exact absurd ran Report.complain_bind
  rename_i path known
  split at ran
  · rename_i seen
    cases Report.pure_clean.mp ran
    exact merged.again pending known ((merged.visited path).mp (List.contains_iff_mem.mp seen))
  rename_i new
  have fresh : path ∉ file :: c.resolved := fun there =>
    new (List.contains_iff_mem.mpr ((merged.visited path).mpr there))
  dsimp only at ran
  split at ran
  · exact absurd ran Report.complain_bind
  rename_i text opened
  obtain ⟨spec, parsed, ran⟩ := Report.bind_clean.mp ran
  obtain ⟨symbols, added, ran⟩ := Report.bind_clean.mp ran
  cases Report.pure_clean.mp ran
  exact merged.add pending known fresh opened parsed added

theorem run_ended {fuel : Nat} (ended : c.pending = []) : c.run library fuel = pure c := by
  cases fuel with
  | zero => rfl
  | succ fuel => rw [run, ended]

theorem run_merged {fuel : Nat} (merged : Merged library file done c)
    (ran : c.run library fuel = pure next) :
    ∃ more, Merged library file (done ++ more) next ∧
      (next.pending = [] ∨ more.length = fuel) := by
  induction fuel generalizing c done with
  | zero =>
    cases Report.pure_clean.mp ran
    exact ⟨[], by rwa [List.append_nil], .inr rfl⟩
  | succ fuel ih =>
    cases pending : c.pending with
    | nil =>
      rw [run_ended pending] at ran
      cases Report.pure_clean.mp ran
      exact ⟨[], by rwa [List.append_nil], .inl pending⟩
    | cons request rest =>
      rw [run, pending] at ran
      obtain ⟨middle, stepped, ran⟩ := Report.bind_clean.mp ran
      obtain ⟨more, kept, ended⟩ := ih (step_merged merged pending stepped) ran
      refine ⟨request :: more, by simpa using kept, ended.imp_right fun used => ?_⟩
      rw [List.length_cons, used]

theorem Merged.complete (merged : Merged library file done c) (ended : c.pending = []) :
    ∀ f ∈ file :: c.resolved, ∀ request ∈ library.requests f, (library.known request).isSome := by
  intro f member request asks
  refine merged.found request ?_
  have asked : request ∈ (file :: c.resolved).flatMap library.requests :=
    List.mem_flatMap.mpr ⟨f, member, asks⟩
  rwa [merged.asked, ended, List.append_nil] at asked

end

end Closure

def Spec.mergedFiles (spec : Spec) : List String :=
  (spec.imports.map (·.resolved)).getD []

section

variable {library : Library} {file text : String} {fuel : Nat} {spec : Spec}

theorem follow_merged (opened : library.read file = .ok text)
    (followed : follow fuel library text file = pure spec) :
    ∃ (c : Closure) (done : List Request), c.Merged library file done ∧
      (c.pending = [] ∨ done.length = fuel) ∧ spec.mergedFiles = c.resolved ∧
      spec.symbols = c.symbols := by
  obtain ⟨root, read, closed⟩ := Report.bind_clean.mp followed
  obtain ⟨c, ran, closed⟩ := Report.bind_clean.mp closed
  cases Report.pure_clean.mp closed
  obtain ⟨done, merged, ended⟩ := Closure.run_merged (Closure.start_merged opened read) ran
  rw [List.nil_append] at merged
  refine ⟨c, done, merged, ended, ?_, rfl⟩
  cases listed : root.imports with
  | some imports => simp [Spec.mergedFiles]
  | none =>
    -- A file without an import list asks for nothing.
    have none : (Closure.start root file).pending = [] := by
      simp [Closure.start, Spec.requests, listed]
    rw [Closure.run_ended none] at ran
    rw [← Report.pure_clean.mp ran]
    simp [Spec.mergedFiles, Closure.start]

end

end WireSchema.Schema
