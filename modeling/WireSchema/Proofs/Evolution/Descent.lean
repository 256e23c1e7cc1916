import WireSchema.Evolution.Walk
import WireSchema.Proofs.Schema.Table

namespace WireSchema.Evolution

open Schema (FieldDef Resolved ResolvedRef StructDef SymbolTable TypeRef)
open Schema.SymbolTable (lookup_exact)

-- The pairs of structs that a comparison leads to, said without the comparison. They are always
-- structs of the two schemas, so their names tell them apart.

-- Two definitions stand at corresponding places of an old and a new type. A request looks up what
-- was possible before, a reply what is possible now.
inductive Corresponds (d : Direction) : ResolvedRef → ResolvedRef → Resolved → Resolved → Prop where
  | single {a b : Resolved} : Corresponds d (.single a) (.single b) a b
  | array {a b : Resolved} : Corresponds d (.array a) (.array b) a b
  | request {old new : List Resolved} {a b : Resolved} (asked : d ≠ .reply) (known : a ∈ old)
      (found : counterpart? new a = some b) : Corresponds d (.variant old) (.variant new) a b
  | reply {old new : List Resolved} {a b : Resolved} (answered : d = .reply) (known : b ∈ new)
      (found : counterpart? old b = some a) : Corresponds d (.variant old) (.variant new) a b
  | widened {new : List Resolved} {a b : Resolved} (asked : d ≠ .reply)
      (found : counterpart? new a = some b) : Corresponds d (.single a) (.variant new) a b
  | narrowed {old : List Resolved} {a b : Resolved} (answered : d = .reply)
      (found : counterpart? old b = some a) : Corresponds d (.variant old) (.single b) a b

inductive Site where
  | structs (old new : StructDef)
  | types (name : String) (old new : ResolvedRef)

def Site.findings (p : Pairing) (d : Direction) : Site → List Finding
  | .structs old new => compareStructs p d old new
  | .types name old new => compareRefs p d name old new

inductive Leads (p : Pairing) (d : Direction) : Site → StructDef → StructDef → Prop where
  | fields {old new s t : StructDef} {f g : FieldDef} {oldType newType : TypeRef}
      {r q : ResolvedRef} (member : f ∈ old.fields) (stable : f.unstable = false)
      (matching : field? new f.name = some g) (oldTyped : f.type = some oldType)
      (newTyped : g.type = some newType) (oldResolved : p.old.symbols.resolveRef oldType = .ok r)
      (newResolved : p.new.symbols.resolveRef newType = .ok q)
      (corresponds : Corresponds d r q (.struct s) (.struct t)) : Leads p d (.structs old new) s t
  | types {name : String} {r q : ResolvedRef} {s t : StructDef}
      (corresponds : Corresponds d r q (.struct s) (.struct t)) : Leads p d (.types name r q) s t

section

variable {p : Pairing} {d : Direction} {s t : StructDef}

theorem descend_onlyIf {condition : Bool} {i : Incompatibility} :
    Finding.descend s t ∉ onlyIf condition (.fault i) := by
  unfold onlyIf
  split <;> simp

theorem descend_compareTypes {field : String} {old new : Schema.TypeDef} :
    Finding.descend s t ∉ compareTypes p d field old new := by
  unfold compareTypes compareAny Pairing.typeFault Pairing.fault
  split
  · split
    · simp
    · split <;> split <;> simp
  · simp
  · simp
  · split <;> simp

theorem descend_compareEnums {field : String} {old new : Schema.EnumDef} :
    Finding.descend s t ∉ compareEnums p d field old new := by
  unfold compareEnums Pairing.typeFault Pairing.fault
  dsimp only
  split <;> simp

theorem descend_compareResolved {field : String} {old new : Resolved} :
    Finding.descend s t ∈ compareResolved p d field old new ↔ old = .struct s ∧ new = .struct t := by
  cases old with
  | type old =>
    cases new with
    | type new => simpa [compareResolved] using descend_compareTypes
    | enum new => simp [compareResolved, Pairing.typeFault, Pairing.fault]
    | struct new => simp [compareResolved, Pairing.typeFault, Pairing.fault]
  | enum old =>
    cases new with
    | type new => simp [compareResolved, Pairing.typeFault, Pairing.fault]
    | enum new => simpa [compareResolved] using descend_compareEnums
    | struct new => simp [compareResolved, Pairing.typeFault, Pairing.fault]
  | struct old =>
    cases new with
    | type new => simp [compareResolved, Pairing.typeFault, Pairing.fault]
    | enum new => simp [compareResolved, Pairing.typeFault, Pairing.fault]
    | struct new =>
      simp only [compareResolved, List.mem_singleton, Finding.descend.injEq, Resolved.struct.injEq]
      constructor
      · intro parts
        obtain ⟨rfl, rfl⟩ := parts
        exact ⟨rfl, rfl⟩
      · intro parts
        obtain ⟨rfl, rfl⟩ := parts
        exact ⟨rfl, rfl⟩

theorem descend_counterpart {alternatives : List Resolved} {wanted : Resolved}
    {change : TypeChange} {compare : Resolved → List Finding} :
    Finding.descend s t ∈ (match counterpart? alternatives wanted with
        | some found => compare found
        | none => [p.typeFault d change]) ↔
      ∃ found, counterpart? alternatives wanted = some found ∧ .descend s t ∈ compare found := by
  cases counterpart? alternatives wanted with
  | none => simp [Pairing.typeFault, Pairing.fault]
  | some found => simp

theorem compareVariants_request {field : String} {old new : List Resolved} (asked : d ≠ .reply) :
    compareVariants p d field old new = old.flatMap fun wanted =>
      match counterpart? new wanted with
      | some found => compareResolved p d field wanted found
      | none => [p.typeFault d (.noCounterpart field wanted.name)] := by
  cases d with
  | reply => exact absurd rfl asked
  | parameter => rfl
  | commandType => rfl

theorem descend_compareVariants {field : String} {old new : List Resolved} :
    Finding.descend s t ∈ compareVariants p d field old new ↔
      Corresponds d (.variant old) (.variant new) (.struct s) (.struct t) := by
  have here : Finding.descend s t ∈ compareResolved p d field (.struct s) (.struct t) :=
    descend_compareResolved.mpr ⟨rfl, rfl⟩
  by_cases answered : d = .reply
  · subst d
    constructor
    · intro member
      obtain ⟨wanted, known, inside⟩ := List.mem_flatMap.mp member
      obtain ⟨found, counter, inside⟩ := descend_counterpart.mp inside
      obtain ⟨rfl, rfl⟩ := descend_compareResolved.mp inside
      exact .reply rfl known counter
    · intro corresponds
      cases corresponds with
      | request asked _ _ => exact absurd rfl asked
      | reply _ known counter =>
        exact List.mem_flatMap.mpr ⟨_, known, descend_counterpart.mpr ⟨_, counter, here⟩⟩
  · rw [compareVariants_request answered]
    constructor
    · intro member
      obtain ⟨wanted, known, inside⟩ := List.mem_flatMap.mp member
      obtain ⟨found, counter, inside⟩ := descend_counterpart.mp inside
      obtain ⟨rfl, rfl⟩ := descend_compareResolved.mp inside
      exact .request answered known counter
    · intro corresponds
      cases corresponds with
      | request _ known counter =>
        exact List.mem_flatMap.mpr ⟨_, known, descend_counterpart.mpr ⟨_, counter, here⟩⟩
      | reply same _ _ => exact absurd same answered

theorem descend_compareRefs {field : String} {r q : ResolvedRef} :
    Finding.descend s t ∈ compareRefs p d field r q ↔
      Corresponds d r q (.struct s) (.struct t) := by
  have here : Finding.descend s t ∈ compareResolved p d field (.struct s) (.struct t) :=
    descend_compareResolved.mpr ⟨rfl, rfl⟩
  constructor
  · intro member
    unfold compareRefs at member
    split at member
    · obtain ⟨rfl, rfl⟩ := descend_compareResolved.mp member
      exact .single
    · obtain ⟨rfl, rfl⟩ := descend_compareResolved.mp member
      exact .array
    · exact descend_compareVariants.mp member
    · split at member
      · simp [Pairing.typeFault, Pairing.fault] at member
      · rename_i asked
        obtain ⟨found, counter, inside⟩ := descend_counterpart.mp member
        obtain ⟨rfl, rfl⟩ := descend_compareResolved.mp inside
        exact .widened asked counter
    · split at member
      · rename_i answered
        obtain ⟨found, counter, inside⟩ := descend_counterpart.mp member
        obtain ⟨rfl, rfl⟩ := descend_compareResolved.mp inside
        exact .narrowed answered counter
      · simp [Pairing.typeFault, Pairing.fault] at member
    all_goals simp [Pairing.typeFault, Pairing.fault] at member
  · intro corresponds
    cases corresponds with
    | single => exact here
    | array => exact here
    | request asked known counter =>
      exact descend_compareVariants.mpr (.request asked known counter)
    | reply answered known counter =>
      exact descend_compareVariants.mpr (.reply answered known counter)
    | widened asked counter =>
      simp only [compareRefs]
      rw [if_neg asked]
      exact descend_counterpart.mpr ⟨_, counter, here⟩
    | narrowed answered counter =>
      simp only [compareRefs]
      rw [if_pos answered]
      exact descend_counterpart.mpr ⟨_, counter, here⟩

theorem descend_resolveOn {side : Side} {f : FieldDef} :
    Finding.descend s t ∉ (resolveOn p side f).1 := by
  unfold resolveOn
  split
  · simp
  · split <;> simp

theorem resolveOn_exact {side : Side} {f : FieldDef} {r : ResolvedRef} :
    (resolveOn p side f).2 = some r ↔
      ∃ type, f.type = some type ∧ side.symbols.resolveRef type = .ok r := by
  unfold resolveOn
  cases f.type with
  | none => simp
  | some type => cases resolved : side.symbols.resolveRef type <;> simp [resolved]

theorem descend_compareFieldTypes {f g : FieldDef} :
    Finding.descend s t ∈ compareFieldTypes p d f g ↔
      ∃ r q, (resolveOn p p.old f).2 = some r ∧ (resolveOn p p.new g).2 = some q ∧
        Corresponds d r q (.struct s) (.struct t) := by
  simp only [compareFieldTypes, List.mem_append, descend_resolveOn, false_or]
  cases (resolveOn p p.old f).2 with
  | none => simp
  | some r =>
    cases (resolveOn p p.new g).2 with
    | none => simp
    | some q => simp [descend_compareRefs]

theorem descend_compareValidators {f g : FieldDef} :
    Finding.descend s t ∉ compareValidators p d f g := by
  unfold compareValidators Pairing.fieldFault Pairing.fault
  split
  · simp
  · split <;> simp
  · simp

theorem descend_compareParameter {f g : FieldDef} :
    Finding.descend s t ∈ compareParameter p d f g ↔
      f.unstable = false ∧ .descend s t ∈ compareFieldTypes p d f g := by
  unfold compareParameter Pairing.fieldFault Pairing.fault
  cases f.unstable <;> simp [descend_onlyIf, descend_compareValidators]

theorem descend_compareReplyField {f g : FieldDef} :
    Finding.descend s t ∈ compareReplyField p f g ↔
      .descend s t ∈ compareFieldTypes p .reply f g := by
  unfold compareReplyField Pairing.fieldFault Pairing.fault
  simp [descend_onlyIf, descend_compareValidators]

theorem descend_compareReplies {old new : StructDef} :
    Finding.descend s t ∈ compareReplies p old new ↔
      ∃ f ∈ old.fields, f.unstable = false ∧ ∃ g, field? new f.name = some g ∧
        .descend s t ∈ compareFieldTypes p .reply f g := by
  simp only [compareReplies, List.mem_flatMap, List.mem_filter, Bool.not_eq_true', and_assoc]
  refine exists_congr fun f => and_congr_right fun _ => and_congr_right fun _ => ?_
  cases field? new f.name with
  | none => simp [Pairing.fieldFault, Pairing.fault]
  | some g => simp [descend_compareReplyField]

theorem descend_compareRequests {old new : StructDef} :
    Finding.descend s t ∈ compareRequests p d old new ↔
      ∃ f ∈ old.fields, f.unstable = false ∧ ∃ g, field? new f.name = some g ∧
        .descend s t ∈ compareFieldTypes p d f g := by
  have added : Finding.descend s t ∉ new.fields.flatMap fun g =>
      onlyIf ((field? old g.name).isNone && !g.optional && !g.unstable)
        (p.fieldFault d (.added g.name new.name)) := by
    simp [Pairing.fieldFault, Pairing.fault, descend_onlyIf]
  simp only [compareRequests, List.mem_append, added, or_false, List.mem_flatMap]
  refine exists_congr fun f => and_congr_right fun _ => ?_
  cases field? new f.name with
  | none => simp [Pairing.fieldFault, Pairing.fault, descend_onlyIf]
  | some g => simp [descend_compareParameter]

theorem descend_compareStructs {old new : StructDef} :
    Finding.descend s t ∈ compareStructs p d old new ↔
      ∃ f ∈ old.fields, f.unstable = false ∧ ∃ g, field? new f.name = some g ∧
        .descend s t ∈ compareFieldTypes p d f g := by
  cases d with
  | reply => exact descend_compareReplies
  | parameter => exact descend_compareRequests
  | commandType => exact descend_compareRequests

theorem descend_exact {site : Site} :
    Finding.descend s t ∈ site.findings p d ↔ Leads p d site s t := by
  cases site with
  | types name r q =>
    refine descend_compareRefs.trans ⟨.types, ?_⟩
    intro leads
    cases leads with
    | types named => exact named
  | structs old new =>
    constructor
    · intro member
      obtain ⟨f, member, stable, g, matching, inside⟩ := descend_compareStructs.mp member
      obtain ⟨r, q, oldSide, newSide, corresponds⟩ := descend_compareFieldTypes.mp inside
      obtain ⟨oldType, oldTyped, oldResolved⟩ := resolveOn_exact.mp oldSide
      obtain ⟨newType, newTyped, newResolved⟩ := resolveOn_exact.mp newSide
      exact .fields member stable matching oldTyped newTyped oldResolved newResolved corresponds
    · intro leads
      cases leads with
      | fields member stable matching oldTyped newTyped oldResolved newResolved corresponds =>
        have oldSide := (resolveOn_exact (p := p)).mpr ⟨_, oldTyped, oldResolved⟩
        have newSide := (resolveOn_exact (p := p)).mpr ⟨_, newTyped, newResolved⟩
        have inside := descend_compareFieldTypes.mpr ⟨_, _, oldSide, newSide, corresponds⟩
        exact descend_compareStructs.mpr ⟨_, member, stable, _, matching, inside⟩

def targets : ResolvedRef → List Resolved
  | .single target => [target]
  | .array element => [element]
  | .variant alternatives => alternatives

theorem Corresponds.targets {r q : ResolvedRef} {a b : Resolved}
    (corresponds : Corresponds d r q a b) : a ∈ targets r ∧ b ∈ targets q := by
  cases corresponds with
  | single => simp [Evolution.targets]
  | array => simp [Evolution.targets]
  | request _ known counter => exact ⟨known, List.mem_of_find?_eq_some counter⟩
  | reply _ known counter => exact ⟨List.mem_of_find?_eq_some counter, known⟩
  | widened _ counter => exact ⟨List.mem_singleton_self _, List.mem_of_find?_eq_some counter⟩
  | narrowed _ counter => exact ⟨List.mem_of_find?_eq_some counter, List.mem_singleton_self _⟩

section

variable {table : SymbolTable}

theorem lookupAlternatives_known {alternatives : List TypeRef} {found : List Resolved}
    (looked : table.lookupAlternatives alternatives = .ok found) :
    ∀ a ∈ found, ∃ name, table.resolve? name = some a := by
  induction alternatives generalizing found with
  | nil =>
    cases looked
    simp
  | cons head rest ih =>
    cases head with
    | single name =>
      obtain ⟨a, first, looked⟩ := bind_ok_exact.mp looked
      obtain ⟨more, others, looked⟩ := bind_ok_exact.mp looked
      cases looked
      intro b member
      rcases List.mem_cons.mp member with rfl | later
      · exact ⟨name, lookup_exact.mp first⟩
      · exact ih others b later
    | array element => simp [SymbolTable.lookupAlternatives] at looked
    | variant inner => simp [SymbolTable.lookupAlternatives] at looked

theorem resolveRef_known {type : TypeRef} {r : ResolvedRef}
    (resolved : table.resolveRef type = .ok r) :
    ∀ a ∈ targets r, ∃ name, table.resolve? name = some a := by
  cases type with
  | single name =>
    obtain ⟨a, looked, rfl⟩ := map_ok_exact.mp resolved
    simpa [targets] using ⟨name, lookup_exact.mp looked⟩
  | array name =>
    obtain ⟨a, looked, rfl⟩ := map_ok_exact.mp resolved
    simpa [targets] using ⟨name, lookup_exact.mp looked⟩
  | variant alternatives =>
    obtain ⟨found, looked, rfl⟩ := map_ok_exact.mp resolved
    exact lookupAlternatives_known looked

theorem struct?_of_resolve? {name : String} (known : table.resolve? name = some (.struct s)) :
    table.struct? s.name = some s := by
  obtain ⟨_, _, found⟩ : table.type? name = none ∧ table.enum? name = none ∧
      table.struct? name = some s := by
    simpa [SymbolTable.resolve?, Option.or_eq_some_iff] using known
  have named : s.name = name := by
    simpa using List.find?_some found
  rw [named]
  exact found

end

structure Pairing.Holds (p : Pairing) (s t : StructDef) : Prop where
  old : p.old.symbols.struct? s.name = some s
  new : p.new.symbols.struct? t.name = some t

theorem Pairing.Holds.unique {s' t' : StructDef} (held : p.Holds s t) (other : p.Holds s' t')
    (oldName : s'.name = s.name) (newName : t'.name = t.name) : s' = s ∧ t' = t := by
  have oldSame := other.old
  have newSame := other.new
  rw [oldName, held.old] at oldSame
  rw [newName, held.new] at newSame
  exact ⟨(Option.some.inj oldSame).symm, (Option.some.inj newSame).symm⟩

theorem Pairing.Holds.visits (held : p.Holds s t) (d : Direction) :
    (⟨s.name, t.name, d⟩ : Visit) ∈ p.visits d := by
  refine List.mem_flatMap.mpr ⟨s, List.mem_of_find?_eq_some held.old, ?_⟩
  exact List.mem_map.mpr ⟨t, List.mem_of_find?_eq_some held.new, rfl⟩

-- The types of a site come from the two schemas. Structs may come from anywhere: the structs of a
-- command's parameters are in no table.
inductive Site.Known (p : Pairing) : Site → Prop where
  | structs {old new : StructDef} : Known p (.structs old new)
  | types {name : String} {oldType newType : TypeRef} {r q : ResolvedRef}
      (oldResolved : p.old.symbols.resolveRef oldType = .ok r)
      (newResolved : p.new.symbols.resolveRef newType = .ok q) : Known p (.types name r q)

theorem holds_of_resolved {oldType newType : TypeRef} {r q : ResolvedRef}
    (oldResolved : p.old.symbols.resolveRef oldType = .ok r)
    (newResolved : p.new.symbols.resolveRef newType = .ok q)
    (corresponds : Corresponds d r q (.struct s) (.struct t)) : p.Holds s t := by
  obtain ⟨oldTarget, newTarget⟩ := corresponds.targets
  obtain ⟨_, oldKnown⟩ := resolveRef_known oldResolved _ oldTarget
  obtain ⟨_, newKnown⟩ := resolveRef_known newResolved _ newTarget
  exact ⟨struct?_of_resolve? oldKnown, struct?_of_resolve? newKnown⟩

theorem Leads.holds {site : Site} (leads : Leads p d site s t) (known : site.Known p) :
    p.Holds s t := by
  cases leads with
  | fields _ _ _ _ _ oldResolved newResolved corresponds =>
    exact holds_of_resolved oldResolved newResolved corresponds
  | types corresponds =>
    cases known with
    | types oldResolved newResolved =>
      exact holds_of_resolved oldResolved newResolved corresponds

end

end WireSchema.Evolution
