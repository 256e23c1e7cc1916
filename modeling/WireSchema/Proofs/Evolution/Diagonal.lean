import WireSchema.Proofs.Evolution.Coverage

namespace WireSchema.Evolution

open Schema (FieldDef Resolved ResolvedRef StructDef SymbolTable TypeRef)

def OneStruct (r : ResolvedRef) : Prop :=
  ∀ s t, .struct s ∈ targets r → .struct t ∈ targets r → s = t

-- A type may take values of any wire type under a listed key only.
def Listed (d : Direction) (command field : String) (r : ResolvedRef) : Prop :=
  ∀ t, .type t ∈ targets r → isAny t = true → anyKey d command field ∈ mayStayAny

structure Clear (table : SymbolTable) (s : StructDef) : Prop where
  distinct : (s.fields.map (·.name)).Nodup
  typed : ∀ f ∈ s.fields, ∀ type, f.type = some type →
    ∃ r, table.resolveRef type = .ok r ∧ OneStruct r

inductive Contains (table : SymbolTable) (root : StructDef) : StructDef → Prop where
  | root : Contains table root root
  | field {s t : StructDef} {f : FieldDef} {type : TypeRef} {r : ResolvedRef}
      (inside : Contains table root s) (member : f ∈ s.fields) (typed : f.type = some type)
      (resolved : table.resolveRef type = .ok r) (target : .struct t ∈ targets r) :
      Contains table root t

def AnyListed (table : SymbolTable) (d : Direction) (command : String) (root : StructDef) : Prop :=
  ∀ s, Contains table root s → ∀ f ∈ s.fields, ∀ type r, f.type = some type →
    table.resolveRef type = .ok r → Listed d command f.name r

def unchanged (command : String) (side : Side) : Pairing :=
  { command, old := side, new := side }

def Quiet (findings : List Finding) : Prop :=
  ∀ e, .fault e ∉ findings

section

variable {side : Side} {command field : String} {d : Direction} {r : ResolvedRef}
  {s t root : StructDef} {f : FieldDef}

theorem covers_self (items : List String) : covers d items items = true := by
  cases d <;> simp [covers]

theorem quiet_onlyIf {condition : Bool} {e : Incompatibility} :
    Quiet (onlyIf condition (.fault e)) ↔ condition = false := by
  cases condition <;> simp [Quiet, onlyIf]

theorem quiet_append {xs ys : List Finding} : Quiet (xs ++ ys) ↔ Quiet xs ∧ Quiet ys := by
  simp [Quiet, not_or, forall_and]

theorem quiet_flatMap {α : Type} {items : List α} {compare : α → List Finding} :
    Quiet (items.flatMap compare) ↔ ∀ a ∈ items, Quiet (compare a) := by
  constructor
  · intro quiet a known e inside
    exact quiet e (List.mem_flatMap.mpr ⟨a, known, inside⟩)
  · intro each e member
    obtain ⟨a, known, inside⟩ := List.mem_flatMap.mp member
    exact each a known e inside

theorem compareResolved_unchanged {a : Resolved} (listed : Listed d command field r)
    (target : a ∈ targets r) :
    Quiet (compareResolved (unchanged command side) d field a a) := by
  intro e
  cases a with
  | struct s => simp [compareResolved]
  | enum values => simp [compareResolved, compareEnums, covers_self]
  | type t =>
    cases any : isAny t with
    | false => simp [compareResolved, compareTypes, any, covers_self]
    | true =>
      have key := listed t target any
      simp [compareResolved, compareTypes, compareAny, any, unchanged, key]

-- Names lead to one definition each, so an alternative is its own counterpart.
theorem counterpart?_self {table : SymbolTable} {alternatives : List Resolved} {a : Resolved}
    (known : ∀ b ∈ alternatives, table.resolve? b.name = some b)
    (single : OneStruct (.variant alternatives)) (member : a ∈ alternatives) :
    counterpart? alternatives a = some a := by
  have own : corresponds a a = true := by
    cases a <;> simp [corresponds]
  have found : (counterpart? alternatives a).isSome :=
    List.find?_isSome.mpr ⟨a, member, own⟩
  obtain ⟨b, counter⟩ := Option.isSome_iff_exists.mp found
  have other : b ∈ alternatives := List.mem_of_find?_eq_some counter
  have matching : corresponds a b = true := List.find?_some counter
  have named (same : b.name = a.name) : b = a := by
    have lookup := known b other
    rw [same, known a member] at lookup
    exact (Option.some.inj lookup).symm
  rw [counter]
  congr 1
  cases b with
  | type t => exact named (by simpa [corresponds] using matching)
  | enum values => exact named (by simpa [corresponds] using matching)
  | struct t =>
    cases a with
    | type u => exact named (by simpa [corresponds] using matching)
    | enum values => exact named (by simpa [corresponds] using matching)
    | struct s => rw [single t s other member]

theorem compareRefs_unchanged {type : TypeRef}
    (resolved : side.symbols.resolveRef type = .ok r) (single : OneStruct r)
    (listed : Listed d command field r) :
    Quiet (compareRefs (unchanged command side) d field r r) := by
  cases r with
  | single a => exact compareResolved_unchanged listed (List.mem_singleton_self a)
  | array a => exact compareResolved_unchanged listed (List.mem_singleton_self a)
  | variant alternatives =>
    have known : ∀ b ∈ alternatives, side.symbols.resolve? b.name = some b := by
      intro b member
      obtain ⟨name, found⟩ := resolveRef_known resolved b member
      rw [SymbolTable.resolve?_name found]
      exact found
    have each : ∀ a ∈ alternatives, counterpart? alternatives a = some a :=
      fun a => counterpart?_self known single
    have quiet : ∀ a ∈ alternatives,
        Quiet (compareResolved (unchanged command side) d field a a) :=
      fun a member => compareResolved_unchanged listed member
    simp only [compareRefs, compareVariants]
    cases d with
    | parameter =>
      refine quiet_flatMap.mpr fun a member => ?_
      simpa only [each a member] using quiet a member
    | commandType =>
      refine quiet_flatMap.mpr fun a member => ?_
      simpa only [each a member] using quiet a member
    | reply =>
      refine quiet_flatMap.mpr fun a member => ?_
      simpa only [each a member] using quiet a member

theorem compareFieldTypes_unchanged (clear : Clear side.symbols s) (member : f ∈ s.fields)
    (listed : AnyListed side.symbols d command s) :
    Quiet (compareFieldTypes (unchanged command side) d f f) := by
  cases declared : f.type with
  | none => simp [Quiet, compareFieldTypes, resolveOn, declared]
  | some type =>
    obtain ⟨r, resolved, single⟩ := clear.typed f member type declared
    have kept := listed s .root f member type r declared resolved
    simpa [compareFieldTypes, resolveOn, declared, unchanged, resolved] using
      compareRefs_unchanged resolved single kept

theorem compareValidators_unchanged :
    Quiet (compareValidators (unchanged command side) d f f) := by
  intro e
  cases declared : f.validator with
  | none => simp [compareValidators, declared]
  | some v => simp [compareValidators, declared, Schema.Validator.agrees]

theorem field?_self (distinct : (s.fields.map (·.name)).Nodup) (member : f ∈ s.fields) :
    field? s f.name = some f := by
  unfold field?
  generalize s.fields = fields at distinct member
  induction fields with
  | nil => simp at member
  | cons first rest ih =>
    rw [List.map_cons, List.nodup_cons] at distinct
    rcases List.mem_cons.mp member with rfl | later
    · simp
    · have other : (first.name == f.name) = false := by
        refine beq_false_of_ne fun same => distinct.1 ?_
        rw [same]
        exact List.mem_map_of_mem later
      rw [List.find?_cons, other]
      exact ih distinct.2 later

theorem compareStructs_unchanged (clear : Clear side.symbols s)
    (listed : AnyListed side.symbols d command s) :
    Quiet (compareStructs (unchanged command side) d s s) := by
  have requests : Quiet (compareRequests (unchanged command side) d s s) := by
    refine quiet_append.mpr ⟨quiet_flatMap.mpr ?_, quiet_flatMap.mpr ?_⟩
    · intro f member
      simp only [field?_self clear.distinct member, compareParameter]
      simp only [quiet_append, and_assoc]
      refine ⟨?_, ?_, ?_, ?_⟩
      · exact quiet_onlyIf.mpr (by simp)
      · exact quiet_onlyIf.mpr (by cases f.unstable <;> simp)
      · exact quiet_onlyIf.mpr (by simp)
      · split
        · simp [Quiet]
        · exact quiet_append.mpr ⟨compareValidators_unchanged,
            compareFieldTypes_unchanged clear member listed⟩
    · intro f member
      exact quiet_onlyIf.mpr (by simp [field?_self clear.distinct member])
  cases d with
  | parameter => exact requests
  | commandType => exact requests
  | reply =>
    refine quiet_flatMap.mpr fun f stays => ?_
    obtain ⟨member, stable⟩ := List.mem_filter.mp stays
    simp only [field?_self clear.distinct member, compareReplyField]
    simp only [quiet_append, and_assoc]
    refine ⟨?_, ?_, ?_, ?_⟩
    · exact quiet_onlyIf.mpr (by simpa using stable)
    · exact quiet_onlyIf.mpr (by simp)
    · exact compareValidators_unchanged
    · exact compareFieldTypes_unchanged clear member listed

theorem Contains.trans {table : SymbolTable} (outer : Contains table root s)
    (inner : Contains table s t) : Contains table root t := by
  induction inner with
  | root => exact outer
  | field _ member typed resolved target ih => exact .field ih member typed resolved target

theorem AnyListed.inside {table : SymbolTable} (listed : AnyListed table d command root)
    (inside : Contains table root s) : AnyListed table d command s :=
  fun t below => listed t (inside.trans below)

inductive Settled (side : Side) (d : Direction) (command : String) : Site → Prop where
  | structs {s : StructDef} (clear : Clear side.symbols s)
      (listed : AnyListed side.symbols d command s) : Settled side d command (.structs s s)
  | types {name : String} {type : TypeRef} {r : ResolvedRef}
      (resolved : side.symbols.resolveRef type = .ok r) (single : OneStruct r)
      (listed : Listed d command name r)
      (inside : ∀ s, .struct s ∈ targets r → AnyListed side.symbols d command s) :
      Settled side d command (.types name r r)

theorem Settled.quiet {site : Site} (settled : Settled side d command site) :
    Quiet (site.findings (unchanged command side) d) := by
  cases settled with
  | structs clear listed => exact compareStructs_unchanged clear listed
  | types resolved single listed _ => exact compareRefs_unchanged resolved single listed

theorem Settled.leads {site : Site} (known : ∀ s ∈ side.symbols.structs, Clear side.symbols s)
    (settled : Settled side d command site) (leads : Leads (unchanged command side) d site s t) :
    s = t ∧ Settled side d command (.structs s s) := by
  have held (targeted : site.Known (unchanged command side)) : Clear side.symbols s :=
    known s (List.mem_of_find?_eq_some (leads.holds targeted).old)
  cases settled with
  | structs clear listed =>
    have there := held .structs
    cases leads with
    | fields member stable matching oldTyped newTyped oldResolved newResolved corresponds =>
      rw [field?_self clear.distinct member] at matching
      cases matching
      rw [oldTyped] at newTyped
      cases newTyped
      cases oldResolved.symm.trans newResolved
      obtain ⟨r, resolved, single⟩ := clear.typed _ member _ oldTyped
      cases oldResolved.symm.trans resolved
      obtain ⟨oldTarget, newTarget⟩ := corresponds.targets
      refine ⟨single s t oldTarget newTarget, .structs there ?_⟩
      exact listed.inside (.field .root member oldTyped resolved oldTarget)
  | types resolved single _ inside =>
    have there := held (.types resolved resolved)
    cases leads with
    | types corresponds =>
      obtain ⟨oldTarget, newTarget⟩ := corresponds.targets
      exact ⟨single s t oldTarget newTarget, .structs there (inside s oldTarget)⟩

theorem Settled.reached {start site : Site}
    (known : ∀ s ∈ side.symbols.structs, Clear side.symbols s)
    (path : Reached (unchanged command side) d start site)
    (settled : Settled side d command start) : Settled side d command site := by
  induction path with
  | refl => exact settled
  | through leads _ ih =>
    obtain ⟨rfl, next⟩ := settled.leads known leads
    exact ih next

end

end WireSchema.Evolution
