import Mathlib.Data.List.Flatten
import Mathlib.Data.List.Perm.Basic
import Mathlib.Data.List.Perm.Subperm
import WireSchema.Proofs.Schema.Reading
import WireSchema.Schema.Import

namespace WireSchema.Schema

-- What a breadth-first order is does not mention how it is found: it starts at the root, is listed
-- by first occurrence, holds all that can be reached, and holds nothing before something nearer.
-- There is one such order at most.

inductive Walk (next : String → List String) (root : String) : Nat → String → Prop where
  | root : Walk next root 0 root
  | step {n : Nat} {f g : String} : Walk next root n f → g ∈ next f → Walk next root (n + 1) g

structure BreadthFirst (next : String → List String) (root : String) (files : List String) :
    Prop where
  distinct : files.Nodup
  listed : files = (root :: files.flatMap next).eraseDups
  members : ∀ f, f ∈ files ↔ ∃ n, Walk next root n f
  nearest : files.Pairwise fun f g => ∀ n, Walk next root n g → ∃ m ≤ n, Walk next root m f

section

variable {next : String → List String} {root : String} {files others : List String}

theorem walk_listed (listed : files = (root :: files.flatMap next).eraseDups) {n : Nat}
    {f : String} (walk : Walk next root n f) : f ∈ files := by
  induction walk with
  | root =>
    rw [listed, List.mem_eraseDups]
    exact List.mem_cons_self ..
  | @step n f g _ imported ih =>
    rw [listed, List.mem_eraseDups]
    exact List.mem_cons_of_mem _ (List.mem_flatMap.mpr ⟨f, ih, imported⟩)

theorem before_left {f g : String} {left right : List String}
    (before : [f, g].Sublist (left ++ right).eraseDups) (here : g ∈ left) : f ∈ left := by
  rw [List.eraseDups_append, List.sublist_append_iff] at before
  obtain ⟨l, l', split, inLeft, inRight⟩ := before
  have absent : g ∉ (right.removeAll left).eraseDups := by
    rw [List.mem_eraseDups, List.removeAll, List.mem_filter]
    simp [here]
  have none : l' = [] := by
    by_contra some
    have last : g ∈ l' := by
      have same := congrArg List.getLast? split
      rw [List.getLast?_append_of_ne_nil _ some] at same
      exact List.mem_of_getLast? same.symm
    exact absent (inRight.subset last)
  subst none
  rw [List.append_nil] at split
  exact List.mem_eraseDups.mp (inLeft.subset (split ▸ List.mem_cons_self ..))

theorem listed_nearest (listed : files = (root :: files.flatMap next).eraseDups) :
    files.Pairwise fun f g => ∀ n, Walk next root n g → ∃ m ≤ n, Walk next root m f := by
  rw [List.pairwise_iff_forall_sublist]
  intro f g before n walk
  -- The induction is on the way to the later file: its last step starts at a file that stands
  -- behind everything that led to the earlier one.
  induction n generalizing f g with
  | zero =>
    cases walk
    rw [listed] at before
    have left : f ∈ [root] := before_left before (List.mem_singleton_self _)
    exact ⟨0, Nat.le_refl _, List.mem_singleton.mp left ▸ .root⟩
  | succ n ih =>
    cases walk with
    | @step _ h _ way imported =>
      obtain ⟨front, back, split⟩ := List.append_of_mem (walk_listed listed way)
      have parts : files =
          ((root :: (front ++ [h]).flatMap next) ++ back.flatMap next).eraseDups := by
        rw [listed]
        nth_rewrite 1 [split]
        simp
      rw [parts] at before
      have left := before_left before
        (List.mem_cons_of_mem _ (List.mem_flatMap.mpr ⟨h, by simp, imported⟩))
      rcases List.mem_cons.mp left with rfl | left
      · exact ⟨0, Nat.zero_le _, .root⟩
      obtain ⟨h', there, imported'⟩ := List.mem_flatMap.mp left
      rcases List.mem_append.mp there with earlier | last
      · have ordered : [h', h].Sublist files := by
          rw [split]
          exact (List.singleton_sublist.mpr earlier).append
            (List.singleton_sublist.mpr (List.mem_cons_self ..))
        obtain ⟨m, near, way'⟩ := ih ordered way
        exact ⟨m + 1, by omega, .step way' imported'⟩
      · obtain rfl := List.mem_singleton.mp last
        exact ⟨n + 1, Nat.le_refl _, .step way imported'⟩

theorem front_listed (listed : files = (root :: files.flatMap next).eraseDups) (n : Nat) :
    (root :: (files.take n).flatMap next).eraseDups <+: files := by
  have parts : files =
      (root :: (files.take n).flatMap next ++ (files.drop n).flatMap next).eraseDups := by
    rw [List.cons_append, ← List.flatMap_append, List.take_append_drop]
    exact listed
  rw [List.eraseDups_append] at parts
  exact ⟨_, parts.symm⟩

theorem BreadthFirst.front_whole (order : BreadthFirst next root files) {n : Nat}
    (short : (root :: (files.take n).flatMap next).eraseDups.length ≤ n) :
    files.take n = files := by
  have inside : (root :: (files.take n).flatMap next).eraseDups ⊆ files.take n :=
    (List.prefix_take_iff.mpr ⟨front_listed order.listed n, short⟩).subset
  have reached (f : String) (m : Nat) (walk : Walk next root m f) : f ∈ files.take n := by
    induction walk with
    | root => exact inside (List.mem_eraseDups.mpr (List.mem_cons_self ..))
    | step _ imported ih =>
      exact inside (List.mem_eraseDups.mpr
        (List.mem_cons_of_mem _ (List.mem_flatMap.mpr ⟨_, ih, imported⟩)))
  have subset : files ⊆ files.take n := by
    intro f member
    obtain ⟨m, walk⟩ := (order.members f).mp member
    exact reached f m walk
  have length := (order.distinct.subperm subset).length_le
  rw [List.length_take] at length
  exact List.take_of_length_le (by omega)

theorem BreadthFirst.unique (order : BreadthFirst next root files)
    (other : BreadthFirst next root others) : files = others := by
  have front (n : Nat) : files.take n = others.take n := by
    induction n with
    | zero => rfl
    | succ n ih =>
      by_cases short : (root :: (files.take n).flatMap next).eraseDups.length ≤ n
      · have whole := order.front_whole short
        have whole' := other.front_whole (ih ▸ short)
        have same : files = others := whole.symm.trans (ih.trans whole')
        rw [same]
      · obtain ⟨more, whole⟩ := front_listed order.listed n
        obtain ⟨more', whole'⟩ := front_listed other.listed n
        rw [← ih] at whole'
        rw [← whole, ← whole', List.take_append_of_le_length (by omega),
          List.take_append_of_le_length (by omega)]
  have all := front (files.length + others.length)
  rwa [List.take_of_length_le (by omega), List.take_of_length_le (by omega)] at all

end

structure Project where
  texts : List (String × String)
  text : String
  file : String

namespace Project

-- The root is its own text, whatever the named texts hold under its name.
def textOf (p : Project) (name : String) : Option String :=
  if name = p.file then some p.text else p.texts.lookup name

-- Only a file that follows the grammar has an import list.
def importList (p : Project) (name : String) : Option Imports :=
  match (p.textOf name).map (Source.tokenize · >>= Source.parseNodes) with
  | some (.ok nodes) => nodes.findSome? (importsOf name)
  | _ => none

def entries (p : Project) (name : String) : List Request :=
  match p.importList name with
  | some imports => imports.files.map fun imported => ⟨name, imported, imports.location⟩
  | none => []

def requestsOf (named : String × String) : List Request :=
  (parseText named.2 named.1).value.requests named.1

def known (p : Project) (request : Request) : Option String :=
  if (p.texts.lookup request.imported).isSome then some request.imported else none

def missing (p : Project) (request : Request) : Option Diagnostic :=
  if (p.texts.lookup request.imported).isSome then none
  else some ⟨.importNotFound request.imported, request.location⟩

def next (p : Project) (name : String) : List String :=
  (p.entries name).filterMap p.known

def definitions (p : Project) (name : String) : SymbolTable :=
  match p.textOf name with
  | some text => (parseText text name).value.symbols
  | none => {}

def merge (p : Project) (t : SymbolTable) (name : String) : Report SymbolTable :=
  t.addImported (p.definitions name)

def named (p : Project) (name : String) : String × String :=
  (name, (p.texts.lookup name).getD "")

def joined (p : Project) (files : List String) : SymbolTable :=
  files.foldl (fun t name => t ++ (p.definitions name).asImported) (p.definitions p.file)

section

variable {p : Project} {name text : String}

theorem imports_of (found : p.textOf name = some text) :
    (parseText text name).value.imports = p.importList name := by
  unfold parseText importList
  rw [found, Option.map_some]
  split
  · rename_i nodes parsed
    rw [parsed]
    exact readSpec_imports
  · rename_i parsed
    rw [parsed]

theorem requests_entries (found : p.textOf name = some text) :
    requestsOf (name, text) = p.entries name := by
  have same := imports_of found
  cases listed : p.importList name with
  | none => simp [requestsOf, Spec.requests, entries, same, listed]
  | some imports => simp [requestsOf, Spec.requests, entries, same, listed]

theorem definitions_of (found : p.textOf name = some text) :
    p.definitions name = (parseText text name).value.symbols := by
  rw [definitions, found]

theorem textOf_file : p.textOf p.file = some p.text :=
  if_pos rfl

theorem textOf_other (other : name ≠ p.file) : p.textOf name = p.texts.lookup name :=
  if_neg other

end

end Project

namespace Closure

section

variable {p : Project} {c : Closure} {request : Request} {rest : List Request} {text : String}

theorem step_missing (unknown : p.texts.lookup request.imported = none) :
    c.step (.ofTexts p.texts) request rest = do
      Report.complain request.location (.importNotFound request.imported)
      return { c with pending := rest } := by
  simp [step, Library.ofTexts, unknown]

theorem step_again (found : p.texts.lookup request.imported = some text)
    (seen : request.imported ∈ c.visited) :
    c.step (.ofTexts p.texts) request rest = pure { c with pending := rest } := by
  simp [step, Library.ofTexts, found, seen]

theorem step_new (other : request.imported ≠ p.file)
    (found : p.texts.lookup request.imported = some text) (fresh : request.imported ∉ c.visited) :
    c.step (.ofTexts p.texts) request rest = do
      let _ ← parseText text request.imported
      let symbols ← p.merge c.symbols request.imported
      return {
        symbols
        visited := request.imported :: c.visited
        resolved := c.resolved ++ [request.imported]
        pending := rest ++ p.entries request.imported } := by
  have textOf := (p.textOf_other other).trans found
  have read : c.step (.ofTexts p.texts) request rest = do
      let imported ← parseText text request.imported
      let symbols ← c.symbols.addImported imported.symbols
      return {
        symbols
        visited := request.imported :: c.visited
        resolved := c.resolved ++ [request.imported]
        pending := rest ++ imported.requests request.imported } := by
    simp [step, Library.ofTexts, found, fresh]
  rw [read]
  refine Report.bind_value ?_
  rw [Project.merge, p.definitions_of textOf, ← p.requests_entries textOf]
  rfl

end

-- The order of the files that were merged when the requests in `done` were served. The pending ones
-- are the rest of what the root and the merged files ask for.
structure Served (requests : String → List Request) (known : Request → Option String)
    (file : String) (done : List Request) (c : Closure) : Prop where
  asked : (file :: c.resolved).flatMap requests = done ++ c.pending
  listed : file :: c.resolved = (file :: done.filterMap known).eraseDups
  distinct : (file :: c.resolved).Nodup
  visited : ∀ f, f ∈ c.visited ↔ f ∈ file :: c.resolved
  reached : ∀ f ∈ file :: c.resolved, ∃ n, Walk (fun f => (requests f).filterMap known) file n f

section

variable {requests : String → List Request} {known : Request → Option String}
  {file path : String} {spec : Spec} {symbols : SymbolTable} {done rest : List Request}
  {c : Closure} {request : Request}

theorem start_served (own : requests file = spec.requests file) :
    Served requests known file [] (start spec file) := by
  constructor
  case asked => simpa [start] using own
  case listed => simp [start, List.eraseDups_cons]
  case distinct => simp [start]
  case visited => simp [start]
  case reached =>
    intro f member
    obtain rfl : f = file := by simpa [start] using member
    exact ⟨0, .root⟩

theorem eraseDups_old {l more : List String} (old : ∀ f ∈ more, f ∈ l) :
    (l ++ more).eraseDups = l.eraseDups := by
  have none : more.removeAll l = [] := by
    simpa [List.removeAll, List.filter_eq_nil_iff] using old
  rw [List.eraseDups_append, none, List.eraseDups_nil, List.append_nil]

theorem eraseDups_new {l : List String} {f : String} (fresh : f ∉ l) :
    (l ++ [f]).eraseDups = l.eraseDups ++ [f] := by
  have one : [f].removeAll l = [f] := by
    simpa [List.removeAll] using fresh
  rw [List.eraseDups_append, one, List.eraseDups_cons]
  rfl

theorem Served.skip (served : Served requests known file done c)
    (pending : c.pending = request :: rest)
    (old : ∀ f ∈ known request, f ∈ file :: c.resolved) :
    Served requests known file (done ++ [request]) { c with pending := rest } where
  asked := by simpa [pending] using served.asked
  listed := by
    rw [List.filterMap_append, ← List.cons_append]
    refine served.listed.trans (eraseDups_old ?_).symm
    intro f member
    rw [← List.mem_eraseDups, ← served.listed]
    exact old f (by simpa using member)
  distinct := served.distinct
  visited := served.visited
  reached := served.reached

theorem Served.add (served : Served requests known file done c)
    (pending : c.pending = request :: rest) (names : known request = some path)
    (fresh : path ∉ file :: c.resolved) :
    Served requests known file (done ++ [request]) {
      symbols
      visited := path :: c.visited
      resolved := c.resolved ++ [path]
      pending := rest ++ requests path } := by
  constructor
  case asked =>
    rw [← List.cons_append, List.flatMap_append, served.asked, pending]
    simp
  case listed =>
    rw [List.filterMap_append, ← List.cons_append, ← List.cons_append, served.listed]
    simp only [List.filterMap_cons, names, List.filterMap_nil]
    refine (eraseDups_new ?_).symm
    rwa [← List.mem_eraseDups, ← served.listed]
  case distinct =>
    rw [← List.cons_append, List.nodup_append_comm]
    exact List.nodup_cons.mpr ⟨fresh, served.distinct⟩
  case visited =>
    intro f
    rw [List.mem_cons, served.visited]
    simp only [List.mem_cons, List.mem_append, List.not_mem_nil, or_false]
    tauto
  case reached =>
    intro f member
    rw [← List.cons_append] at member
    rcases List.mem_append.mp member with old | new
    · exact served.reached f old
    · obtain rfl := List.mem_singleton.mp new
      -- The request was made by a file that was reached before.
      have asked : request ∈ (file :: c.resolved).flatMap requests := by
        rw [served.asked, pending]
        simp
      obtain ⟨base, among, listed⟩ := List.mem_flatMap.mp asked
      obtain ⟨n, walk⟩ := served.reached base among
      exact ⟨n + 1, .step walk (List.mem_filterMap.mpr ⟨request, listed, names⟩)⟩

theorem Served.breadthFirst (served : Served requests known file done c)
    (ended : c.pending = []) :
    BreadthFirst (fun f => (requests f).filterMap known) file (file :: c.resolved) := by
  have listed : file :: c.resolved =
      (file :: (file :: c.resolved).flatMap fun f => (requests f).filterMap known).eraseDups := by
    have all := served.asked
    rw [ended, List.append_nil] at all
    rw [← List.filterMap_flatMap, all]
    exact served.listed
  exact {
    distinct := served.distinct
    listed
    members := fun f => ⟨served.reached f, fun ⟨_, walk⟩ => walk_listed listed walk⟩
    nearest := listed_nearest listed }

end

structure Followed (p : Project) (r : Report Closure) (done : List Request) : Prop extends
    Served p.entries p.known p.file done r.value where
  found : ∀ f ∈ r.value.resolved, ∃ text, p.texts.lookup f = some text
  missing : r.diagnostics.filter (·.fault.isImportNotFound) = done.filterMap p.missing
  merged : r.value.symbols = (r.value.resolved.foldlM p.merge (p.definitions p.file)).value
  clean : r.diagnostics = [] →
    r.value.symbols.Distinct ∧ r.value.symbols = p.joined r.value.resolved

section

variable {p : Project} {r : Report Closure} {done rest : List Request} {request : Request}

theorem start_followed :
    Followed p ((Closure.start · p.file) <$> parseText p.text p.file) [] := by
  obtain ⟨quiet, own⟩ : (parseText p.text p.file).Gives _ := parseText_gives
  have root := Project.definitions_of p.textOf_file
  constructor
  case toServed => exact start_served (Project.requests_entries p.textOf_file).symm
  case found => simp [Closure.start]
  case missing => exact Report.quiet_exact.mp (Report.quiet_map.mpr quiet)
  case merged => exact root.symm
  case clean => exact fun _ => ⟨own.distinct, root.symm⟩

theorem Followed.skip {r' : Report Closure} (followed : Followed p r done)
    (pending : r.value.pending = request :: rest)
    (same : r'.value = { r.value with pending := rest })
    (old : ∀ f ∈ p.known request, f ∈ p.file :: r.value.resolved)
    (complained : r'.diagnostics = r.diagnostics ++ (p.missing request).toList) :
    Followed p r' (done ++ [request]) := by
  constructor
  case toServed => exact same ▸ followed.toServed.skip pending old
  case found => simpa [same] using followed.found
  case missing =>
    rw [complained, List.filter_append, followed.missing, List.filterMap_append]
    congr 1
    unfold Project.missing
    split <;> simp_all
  case merged => simpa [same] using followed.merged
  case clean =>
    intro none
    rw [complained] at none
    rw [same]
    exact followed.clean (List.append_eq_nil_iff.mp none).1

theorem Followed.add {text : String} (followed : Followed p r done)
    (pending : r.value.pending = request :: rest)
    (found : p.texts.lookup request.imported = some text)
    (fresh : request.imported ∉ r.value.visited) :
    Followed p (r >>= fun c => c.step (.ofTexts p.texts) request rest) (done ++ [request]) := by
  have unmerged := (followed.visited request.imported).not.mp fresh
  have other : request.imported ≠ p.file := fun same => unmerged (same ▸ List.mem_cons_self ..)
  have known : p.known request = some request.imported := by
    rw [Project.known, found]
    rfl
  have nothing : p.missing request = none := by
    rw [Project.missing, found]
    rfl
  obtain ⟨quiet, -⟩ : (parseText text request.imported).Gives _ := parseText_gives
  have value : (r >>= fun c => c.step (.ofTexts p.texts) request rest).value =
      { symbols := (p.merge r.value.symbols request.imported).value
        visited := request.imported :: r.value.visited
        resolved := r.value.resolved ++ [request.imported]
        pending := rest ++ p.entries request.imported } := by
    rw [Report.value_bind, step_new other found fresh]
    rfl
  have diagnostics : (r >>= fun c => c.step (.ofTexts p.texts) request rest).diagnostics =
      r.diagnostics ++ ((parseText text request.imported).diagnostics ++
        (p.merge r.value.symbols request.imported).diagnostics) := by
    show _ ++ (r.value.step _ _ _).diagnostics = _
    rw [step_new other found fresh]
    show _ ++ (_ ++ (_ ++ [])) = _
    rw [List.append_nil]
  constructor
  case toServed => exact value ▸ followed.toServed.add pending known unmerged
  case found =>
    intro f member
    rw [value] at member
    rcases List.mem_append.mp member with old | new
    · exact followed.found f old
    · exact ⟨text, List.mem_singleton.mp new ▸ found⟩
  case missing =>
    rw [diagnostics, List.filter_append, List.filter_append, followed.missing,
      Report.quiet_exact.mp quiet, Project.merge, Report.quiet_exact.mp quiet_addImported,
      List.filterMap_append]
    simp [nothing]
  case merged =>
    rw [value, List.foldlM_append, Report.value_bind, ← followed.merged]
    simp
  case clean =>
    intro none
    rw [diagnostics] at none
    obtain ⟨before, none⟩ := List.append_eq_nil_iff.mp none
    obtain ⟨distinct, joined⟩ := followed.clean before
    have merged : p.merge r.value.symbols request.imported = pure _ :=
      Report.clean_exact.mpr ⟨rfl, (List.append_eq_nil_iff.mp none).2⟩
    obtain ⟨appended, distinct⟩ := (SymbolTable.addImported_exact distinct).mp merged
    rw [value]
    refine ⟨distinct, ?_⟩
    rw [Project.joined, List.foldl_append, ← Project.joined, ← joined]
    exact appended

theorem step_followed (followed : Followed p r done) (pending : r.value.pending = request :: rest) :
    Followed p (r >>= fun c => c.step (.ofTexts p.texts) request rest) (done ++ [request]) := by
  cases found : p.texts.lookup request.imported with
  | none =>
    refine followed.skip pending ?_ ?_ ?_
    · rw [Report.value_bind, step_missing found]
      rfl
    · simp [Project.known, found]
    · show _ ++ (r.value.step _ _ _).diagnostics = _
      rw [step_missing found, Project.missing, found]
      rfl
  | some text =>
    by_cases seen : request.imported ∈ r.value.visited
    · refine followed.skip pending ?_ ?_ ?_
      · rw [Report.value_bind, step_again found seen]
        rfl
      · intro f known
        obtain rfl : request.imported = f := by simpa [Project.known, found] using known
        exact (followed.visited _).mp seen
      · show _ ++ (r.value.step _ _ _).diagnostics = _
        rw [step_again found seen, Project.missing, found]
        rfl
    · exact followed.add pending found seen

theorem run_followed (fuel : Nat) (followed : Followed p r done) :
    ∃ more, Followed p (r >>= run (.ofTexts p.texts) fuel) (done ++ more) ∧
      ((r >>= run (.ofTexts p.texts) fuel).value.pending = [] ∨ more.length = fuel) := by
  induction fuel generalizing r done with
  | zero =>
    refine ⟨[], ?_, .inr rfl⟩
    rw [List.append_nil]
    exact (bind_pure r).symm ▸ followed
  | succ fuel ih =>
    cases pending : r.value.pending with
    | nil =>
      have ended : (r >>= run (.ofTexts p.texts) (fuel + 1)) = r := by
        refine (Report.bind_value ?_).trans (bind_pure r)
        simp only [run, pending]
      rw [ended]
      exact ⟨[], by rwa [List.append_nil], .inl pending⟩
    | cons request rest =>
      have stepped : (r >>= run (.ofTexts p.texts) (fuel + 1)) =
          (r >>= fun c => c.step (.ofTexts p.texts) request rest) >>=
            run (.ofTexts p.texts) fuel := by
        rw [bind_assoc]
        refine Report.bind_value ?_
        simp only [run, pending]
      obtain ⟨more, kept, ended⟩ := ih (step_followed followed pending)
      rw [stepped]
      refine ⟨request :: more, by simpa using kept, ended.imp_right ?_⟩
      intro used
      rw [List.length_cons, used]

theorem run_settled {library : Library} {c : Closure} {fuel : Nat} (more : Nat)
    (ended : (c.run library fuel).value.pending = []) :
    c.run library (fuel + more) = c.run library fuel := by
  induction fuel generalizing c with
  | zero =>
    have none : c.pending = [] := ended
    cases more with
    | zero => rfl
    | succ more =>
      rw [Nat.zero_add]
      simp only [run, none]
  | succ fuel ih =>
    rw [Nat.add_right_comm]
    unfold run at ended ⊢
    cases pending : c.pending with
    | nil => rfl
    | cons request rest =>
      simp only [pending] at ended ⊢
      exact Report.bind_value (ih ended)

theorem Followed.bounded (followed : Followed p r done) :
    ((p.file :: r.value.resolved).flatMap p.entries).length ≤
      importCount p.texts p.text p.file := by
  obtain ⟨fresh, once⟩ := List.nodup_cons.mp followed.distinct
  have each : r.value.resolved.flatMap p.entries =
      (r.value.resolved.map p.named).flatMap Project.requestsOf := by
    rw [List.flatMap_map]
    refine List.flatMap_congr fun f member => ?_
    obtain ⟨text, found⟩ := followed.found f member
    have other : f ≠ p.file := fun same => fresh (same ▸ member)
    rw [Project.named, found]
    exact (p.requests_entries ((p.textOf_other other).trans found)).symm
  have distinct : (r.value.resolved.map p.named).Nodup :=
    once.map fun f g same => congrArg Prod.fst same
  have inside : r.value.resolved.map p.named ⊆ p.texts := by
    intro pair member
    obtain ⟨f, merged, rfl⟩ := List.mem_map.mp member
    obtain ⟨text, found⟩ := followed.found f merged
    obtain ⟨before, behind, split, -⟩ := List.lookup_eq_some_iff.mp found
    rw [Project.named, found, split]
    simp
  obtain ⟨l, perm, sublist⟩ := distinct.subperm inside
  have fewer : ((r.value.resolved.map p.named).flatMap Project.requestsOf).length ≤
      (p.texts.flatMap Project.requestsOf).length := by
    rw [← (perm.flatMap_right _).length_eq]
    exact (sublist.flatMap _).length_le
  rw [List.flatMap_cons, List.length_append, each, ← p.requests_entries p.textOf_file]
  have counted : (p.texts.flatMap Project.requestsOf).length = _ := List.length_flatMap
  rw [counted, List.sum_eq_foldl_nat] at fewer
  exact Nat.add_le_add_left fewer _

def finalReport (p : Project) : Report Closure :=
  (Closure.start · p.file) <$> parseText p.text p.file >>=
    run (.ofTexts p.texts) (importCount p.texts p.text p.file)

theorem finalReport_followed :
    Followed p (finalReport p) ((p.file :: (finalReport p).value.resolved).flatMap p.entries) ∧
      (finalReport p).value.pending = [] := by
  obtain ⟨more, followed, ended⟩ : ∃ more, Followed p (finalReport p) ([] ++ more) ∧
      ((finalReport p).value.pending = [] ∨ more.length = importCount p.texts p.text p.file) :=
    run_followed _ start_followed
  have asked := followed.asked
  have none : (finalReport p).value.pending = [] := by
    rcases ended with none | used
    · exact none
    · have total := followed.bounded
      rw [asked, List.length_append, List.nil_append, used] at total
      exact List.length_eq_zero_iff.mp (by omega)
  rw [none, List.append_nil] at asked
  exact ⟨asked ▸ followed, none⟩

theorem Followed.breadthFirst
    (followed : Followed p r ((p.file :: r.value.resolved).flatMap p.entries)) :
    BreadthFirst p.next p.file (p.file :: r.value.resolved) := by
  have ended : r.value.pending = [] := List.self_eq_append_right.mp followed.asked
  exact followed.toServed.breadthFirst ended

end

end Closure

-- The way along the imports ends in a state `c`, and fuel beyond what it was given would not lead
-- further. Every file that can be reached is merged once, breadth first, and every entry that
-- names no file is reported; without such faults the result is as it should be.
theorem parse_closure (p : Project) :
    let fuel := importCount p.texts p.text p.file
    let c := ((Closure.start (parseText p.text p.file).value p.file).run (.ofTexts p.texts)
      fuel).value
    (c.pending = [] ∧ ∀ more, follow (fuel + more) (.ofTexts p.texts) p.text p.file =
      follow fuel (.ofTexts p.texts) p.text p.file) ∧
    BreadthFirst p.next p.file (p.file :: c.resolved) ∧
    c.symbols = (c.resolved.foldlM p.merge (p.definitions p.file)).value ∧
    (∀ found, parse p.texts p.text p.file = .error found →
      found.filter (·.fault.isImportNotFound) =
        ((p.file :: c.resolved).flatMap p.entries).filterMap p.missing) ∧
    ∀ spec, parse p.texts p.text p.file = .ok spec →
      ((p.file :: c.resolved).flatMap p.entries).filterMap p.missing = [] ∧
      spec.imports = (p.importList p.file).map (fun imports =>
        { imports with resolved := c.resolved, dependencies := c.resolved }) ∧
      spec.symbols = p.joined c.resolved ∧
      (p.definitions p.file).Marked false ∧
      ∀ f ∈ c.resolved, (p.definitions f).asImported.Marked true := by
  intro fuel c
  obtain ⟨followed, ended⟩ : Closure.Followed p (Closure.finalReport p) _ ∧ _ :=
    Closure.finalReport_followed
  have found : (follow fuel (.ofTexts p.texts) p.text p.file).diagnostics =
      (Closure.finalReport p).diagnostics := by
    show _ ++ (_ ++ []) = (_ ++ []) ++ _
    rw [List.append_nil, List.append_nil]
    rfl
  refine ⟨⟨ended, ?_⟩, followed.breadthFirst, followed.merged, ?_, ?_⟩
  · intro more
    have settled : (Closure.start (parseText p.text p.file).value p.file).run (.ofTexts p.texts)
        (fuel + more) = _ := Closure.run_settled more ended
    refine Report.bind_value ?_
    unfold Spec.close
    rw [settled]
  · intro reported failed
    have same : (follow fuel (.ofTexts p.texts) p.text p.file).diagnostics = reported :=
      Report.toExcept_error.mp failed |>.1
    rw [← same, found]
    exact followed.missing
  · intro spec parsed
    obtain ⟨value, none⟩ := Report.clean_exact.mp (Report.toExcept_exact.mp parsed)
    rw [found] at none
    obtain ⟨-, joined⟩ := followed.clean none
    refine ⟨?_, ?_, ?_, ?_, fun f _ => asImported_marked _⟩
    · have missing := followed.missing
      rw [none] at missing
      exact missing.symm
    · rw [← value, ← p.imports_of p.textOf_file]
      rfl
    · rw [← value]
      exact joined
    · rw [p.definitions_of p.textOf_file]
      exact parseText_gives.2.marked

-- Three files that import one another, the root and themselves.
def circle : Project where
  texts := [("a", "struct other \x7b \x7d"),
    ("b", "imports = [c, a]; struct second \x7b \x7d"),
    ("c", "imports = [b, c]; struct third \x7b \x7d")]
  text := "imports = [b, c]; struct first \x7b \x7d"
  file := "a"

theorem parse_closure_circle :
    BreadthFirst circle.next "a" ["a", "b", "c"] ∧
      ∃ spec, parse circle.texts circle.text circle.file = .ok spec ∧
        spec.imports.map (·.resolved) = some ["b", "c"] ∧
        spec.symbols = circle.joined ["b", "c"] ∧
        spec.symbols.structs.map (fun s => (s.name, s.imported)) =
          [("first", false), ("second", true), ("third", true)] := by
  have resolved : ((Closure.start (parseText circle.text circle.file).value circle.file).run
      (.ofTexts circle.texts) (importCount circle.texts circle.text circle.file)).value.resolved =
        ["b", "c"] := by
    decide +kernel
  have parsed : parse circle.texts circle.text circle.file = .ok _ :=
    Report.toExcept_of_clean (by decide +kernel)
  obtain ⟨-, order, -, -, result⟩ := parse_closure circle
  obtain ⟨-, imports, symbols, -⟩ := result _ parsed
  rw [resolved] at order imports symbols
  refine ⟨order, _, parsed, ?_, symbols, ?_⟩
  · rw [imports]
    decide +kernel
  · decide +kernel

end WireSchema.Schema
