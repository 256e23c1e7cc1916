import WireSchema.Bound.FieldBinding
import WireSchema.Proofs.Schema.Report

namespace WireSchema.Bound

open Schema (FieldDef Location Report Resolved SymbolTable TypeRef)

def BasicType.Plain (t : BasicType) : Prop :=
  t.isAny = false ∧ t.isChain = false

-- The wire types by which an alternative is told from the others. A struct is an object.
def Alternative.wireTypes (a : Alternative) : List String :=
  match a.kind with
  | .basic t => t.wireTypes
  | .struct _ => ["object"]

def Alternative.isStruct (a : Alternative) : Bool :=
  match a.kind with
  | .basic _ => false
  | .struct _ => true

structure Variant.WellFormed (v : Variant) : Prop where
  plain : ∀ a ∈ v.alternatives, ∀ t, a.kind = .basic t → t.Plain
  structs : (v.alternatives.filter (·.isStruct)).length ≤ 1
  disjoint : v.alternatives.Pairwise fun a b => ∀ tag ∈ a.wireTypes, tag ∉ b.wireTypes

structure FieldKind.Allowed (kind : FieldKind) (array : Bool) : Prop where
  element : array = true → ∀ t, kind = .basic t → t.Plain
  variant : ∀ v, kind = .variant v → v.WellFormed

structure Field.WellFormed (f : Field) : Prop where
  kind : f.kind.Allowed f.array
  optional : f.optional = true → f.default = none
  array : f.array = true → f.default = none
  inlined : f.owner.isSome = true → f.array = false

section

variable {location : Location} {field name variantName owner : String} {symbols : SymbolTable}

theorem plain_of_sentinel? {t : Schema.TypeDef} (none : sentinel? (.type t) = none) :
    (basicTypeOf t).Plain := by
  unfold sentinel? at none
  constructor <;> grind [basicTypeOf, BasicType.isAny, BasicType.isChain]

theorem claimTags_clean {tags claimed : List (String × String)} {wireTypes : List String}
    (ran : claimTags location field name tags wireTypes = pure claimed)
    (distinct : (tags.map (·.1)).Nodup) :
    claimed.map (·.1) = wireTypes.reverse ++ tags.map (·.1) ∧ (claimed.map (·.1)).Nodup := by
  induction wireTypes generalizing tags with
  | nil =>
    cases Report.pure_clean.mp ran
    exact ⟨rfl, distinct⟩
  | cons tag rest ih =>
    unfold claimTags at ran
    cases found : tags.lookup tag with
    | some previous => simp [found] at ran
    | none =>
      have fresh : tag ∉ tags.map (·.1) := by
        intro member
        obtain ⟨entry, there, same⟩ := List.mem_map.mp member
        have other := List.lookup_eq_none_iff.mp found entry there
        simp [same] at other
      simp only [found] at ran
      obtain ⟨keys, apart⟩ := ih ran (List.nodup_cons.mpr ⟨fresh, distinct⟩)
      exact ⟨by simp [keys], apart⟩

-- The claimed wire types are those of the alternatives so far.
structure VariantDraft.Sound (d : VariantDraft) : Prop where
  claimed : d.tags.map (·.1) = (d.alternatives.flatMap (·.wireTypes)).reverse
  distinct : (d.tags.map (·.1)).Nodup
  plain : ∀ a ∈ d.alternatives, ∀ t, a.kind = .basic t → t.Plain
  structs : (d.alternatives.filter (·.isStruct)).length = if d.structSeen then 1 else 0

theorem VariantDraft.Sound.add {d : VariantDraft} (sound : d.Sound) {tags : List (String × String)}
    {a : Alternative} {structSeen : Bool}
    (ran : claimTags location field name d.tags a.wireTypes = pure tags)
    (plain : ∀ t, a.kind = .basic t → t.Plain)
    (counted : (if structSeen then 1 else 0) =
      (if d.structSeen then 1 else 0) + if a.isStruct then 1 else 0) :
    Sound { tags, structSeen, alternatives := d.alternatives ++ [a] } := by
  obtain ⟨keys, distinct⟩ := claimTags_clean ran sound.distinct
  refine ⟨?_, distinct, ?_, ?_⟩
  · simp [keys, sound.claimed]
  · intro b member
    rcases List.mem_append.mp member with before | last
    · exact sound.plain b before
    · rw [List.mem_singleton.mp last]
      exact plain
  · simp only [List.filter_append, List.length_append, sound.structs, counted]
    cases kind : a.isStruct <;> simp [kind]

theorem addAlternative_sound {d next : VariantDraft} {r : Resolved} (sound : d.Sound)
    (ran : addAlternative location field d r = pure next) : next.Sound := by
  unfold addAlternative at ran
  cases r with
  | type t =>
    simp only at ran
    split at ran
    · exact absurd ran Report.complain_bind
    · rename_i plain
      obtain ⟨tags, claimed, ran⟩ := Report.bind_clean.mp ran
      cases Report.pure_clean.mp ran
      refine sound.add claimed ?_ ?_
      · intro u same
        cases same
        exact plain_of_sentinel? (by simpa using plain)
      · simp [Alternative.isStruct]
  | enum e => exact absurd ran Report.complain_bind
  | struct s =>
    simp only at ran
    split at ran
    · exact absurd ran Report.complain_bind
    · rename_i unseen
      obtain ⟨tags, claimed, ran⟩ := Report.bind_clean.mp ran
      cases Report.pure_clean.mp ran
      refine sound.add claimed ?_ ?_
      · intro u same
        cases same
      · simp [Alternative.isStruct, unseen]

theorem VariantDraft.Sound.wellFormed {d : VariantDraft} (sound : d.Sound) {rustName : String} :
    Variant.WellFormed { rustName, alternatives := d.alternatives } := by
  refine ⟨sound.plain, ?_, ?_⟩
  · rw [sound.structs]
    split <;> simp
  · have distinct : (d.alternatives.flatMap (·.wireTypes)).Nodup := by
      rw [← (List.reverse_perm _).nodup_iff, ← sound.claimed]
      exact sound.distinct
    refine (List.pairwise_flatMap.mp distinct).2.imp fun apart tag here there => ?_
    exact apart tag here tag there rfl

theorem bindVariant_wellFormed {alternatives : List Resolved} {rustName : String} {v : Variant}
    (bound : bindVariant location field alternatives rustName = pure (some v)) : v.WellFormed := by
  obtain ⟨v, same, ran⟩ := Report.ifClean_exact.mp bound
  cases same
  obtain ⟨d, folded, result⟩ := Report.bind_clean.mp ran
  cases Report.pure_clean.mp result
  have empty : VariantDraft.Sound {} := ⟨rfl, .nil, by simp, rfl⟩
  have sound : d.Sound :=
    Report.foldlM_clean (P := fun _ (d : VariantDraft) => d.Sound) folded empty
      fun _ _ _ _ sound step => addAlternative_sound sound step
  exact sound.wellFormed

theorem resolveField_clean {type : TypeRef} {found : Option Schema.ResolvedRef}
    (resolved : symbols.resolveField location field type = pure found) : ∃ r, found = some r := by
  unfold SymbolTable.resolveField at resolved
  split at resolved
  · exact ⟨_, (Report.pure_clean.mp resolved).symm⟩
  · exact absurd resolved Report.reject_clean

theorem bindFieldKind_allowed {type : TypeRef} {found : Option (FieldKind × Bool)}
    (bound : bindFieldKind symbols location field type variantName = pure found) :
    ∃ kind array, found = some (kind, array) ∧ kind.Allowed array := by
  unfold bindFieldKind at bound
  split at bound
  · exact absurd bound Report.reject_clean
  · obtain ⟨resolved, known, bound⟩ := Report.bind_clean.mp bound
    obtain ⟨r, rfl⟩ := resolveField_clean known
    cases r with
    | single target =>
      simp only at bound
      split at bound
      · exact absurd bound Report.reject_clean
      · cases Report.pure_clean.mp bound
        refine ⟨_, _, rfl, fun array => (nomatch array), ?_⟩
        intro v same
        cases target <;> cases same
    | array target =>
      simp only at bound
      split at bound
      · exact absurd bound Report.reject_clean
      · rename_i plain
        cases Report.pure_clean.mp bound
        refine ⟨_, _, rfl, ?_, ?_⟩
        · intro _ t same
          cases target with
          | type t =>
            cases same
            exact plain_of_sentinel? plain
          | enum e => cases same
          | struct s => cases same
        · intro v same
          cases target <;> cases same
    | variant alternatives =>
      obtain ⟨choice, chosen, bound⟩ := Report.bind_clean.mp bound
      obtain ⟨v, rfl, _⟩ := Report.ifClean_exact.mp chosen
      cases Report.pure_clean.mp bound
      refine ⟨_, _, rfl, fun array => (nomatch array), ?_⟩
      intro w same
      cases same
      exact bindVariant_wellFormed chosen

structure Binds (f : FieldDef) (b : Field) : Prop where
  kind : b.kind.Allowed b.array
  optional : b.optional = f.optional
  ignore : b.ignore = f.ignore
  default : b.default.isSome = f.default.isSome
  chained : b.chained = false
  owner : b.owner = none
  optionalDefault : f.optional = true → f.default = none
  arrayDefault : b.array = true → f.default = none

theorem declaredKind_allowed {f : FieldDef} {kind : FieldKind} {array : Bool}
    (bound : declaredKind symbols f variantName = pure (some (kind, array))) :
    kind.Allowed array := by
  unfold declaredKind at bound
  split at bound
  · obtain ⟨_, _, same, allowed⟩ := bindFieldKind_allowed bound
    cases same
    exact allowed
  · obtain ⟨t, _, same⟩ := Option.map_eq_some_iff.mp (Report.pure_clean.mp bound)
    cases same
    exact ⟨fun array => (nomatch array), fun _ same => (nomatch same)⟩

theorem completeField_binds {f : FieldDef} {b : Field} {kind : FieldKind} {array : Bool}
    {default : Option DefaultValue} (bound : completeField f kind array default = pure (some b))
    (allowed : kind.Allowed array) (kept : default.isSome = f.default.isSome)
    (optionalDefault : f.optional = true → f.default = none)
    (arrayDefault : array = true → f.default = none) : Binds f b := by
  unfold completeField at bound
  simp only at bound
  split at bound
  · simp at bound
  · cases Report.pure_clean.mp bound
    exact ⟨allowed, rfl, rfl, kept, rfl, rfl, optionalDefault, arrayDefault⟩

theorem bindField_binds {f : FieldDef} {b : Field}
    (bound : bindField symbols owner f = pure (some b)) : Binds f b := by
  obtain ⟨found, declared, bound⟩ := Report.bind_clean.mp bound
  cases found with
  | none => simp at bound
  | some pair =>
    obtain ⟨kind, array⟩ := pair
    have allowed := declaredKind_allowed declared
    simp only at bound
    split at bound
    · simp at bound
    · rename_i optionalDefault
      split at bound
      · simp at bound
      · rename_i arrayDefault
        simp only [Bool.and_eq_true, Option.isSome_iff_ne_none, ne_eq, not_and,
          Decidable.not_not] at optionalDefault arrayDefault
        cases default : f.default with
        | none =>
          simp only [default] at bound
          exact completeField_binds bound allowed (by simp [default]) optionalDefault arrayDefault
        | some e =>
          simp only [default] at bound
          obtain ⟨given, _, bound⟩ := Report.bind_clean.mp bound
          cases given with
          | none => simp at bound
          | some value =>
            exact completeField_binds bound allowed (by simp [default]) optionalDefault arrayDefault

theorem Binds.wellFormed {f : FieldDef} {b : Field} (binds : Binds f b) : b.WellFormed := by
  have absent (missing : f.default = none) : b.default = none := by
    have kept := binds.default
    rw [missing] at kept
    simpa using kept
  refine ⟨binds.kind, ?_, fun array => absent (binds.arrayDefault array), ?_⟩
  · intro optional
    rw [binds.optional] at optional
    exact absent (binds.optionalDefault optional)
  · intro inlined
    simp [binds.owner] at inlined

end

-- What the binder makes of an integer and of a struct that say nothing more about themselves.
def intField (name member : String) : Field :=
  { name, rustName := member
    kind := .basic (basicTypeOf (Schema.builtinType "int" "i32" "int")) }

def boundStruct (name rustName : String) (fields : List Field) : Struct :=
  { name, rustName, description := none, strict := true, immutable := false
    inlineChained := true, comparable := false, fields, command := none }

end WireSchema.Bound
