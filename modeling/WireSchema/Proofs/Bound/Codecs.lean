import WireSchema.Proofs.Bound.Declared
import WireSchema.Proofs.Bound.Structs
import WireSchema.Proofs.Evolution.Leaves

namespace WireSchema.Bound

open Bson (Kind Subtype)
open Schema (FieldDef Location Report Resolved SymbolTable TypeDef TypeRef)

-- Elements of every type can be checked and written, and read as well unless its only wire type has
-- no values to give.

structure BasicType.Sound (t : BasicType) : Prop where
  tags : ∀ tag ∈ t.wireTypes,
    tag = Schema.WireType.any ∨ tag = Schema.WireType.chain ∨ ∃ k : Kind, k.name = tag
  binary : t.wireTypes = ["bindata"] → ∃ s, t.subtype.bind Subtype.ofName? = some s
  written : t.isAny = true ∨ t.isChain = true → t.serializer.isSome = true
  read : t.deserializer = none → ∃ tag, t.singleWireType? = some tag

-- A type that takes whole documents apart is for chained members, and no alternative of a variant
-- takes elements of every kind.
def FieldKind.Sound : FieldKind → Prop
  | .basic t => t.Sound ∧ (t.isAny = false → t.isChain = false)
  | .variant v => ∀ a ∈ v.alternatives, ∀ t, a.kind = .basic t → t.Sound ∧ t.Plain
  | _ => True

-- A field is read element by element or, as a chained member, from the whole document.
structure Field.Sound (f : Field) : Prop where
  onWire : f.chained = false → f.kind.Sound
  chained : f.chained = true → ∀ t, f.kind = .basic t → t.Sound ∧ t.isChain = true
  variant : f.chained = true → ∀ v, f.kind ≠ .variant v

section

variable {t : TypeDef}

theorem isValid_exact {tag : String} : Schema.WireType.isValid tag = true ↔
    tag = Schema.WireType.any ∨ tag = Schema.WireType.chain ∨ ∃ k : Kind, k.name = tag := by
  simp [Schema.WireType.isValid, Schema.WireType.info?, Option.isSome_iff_exists,
    Kind.ofName?_exact, or_assoc]

theorem checkSubtype_binary (clean : checkSubtype t (some "bindata") = pure ()) :
    ∃ s, t.subtype.bind Subtype.ofName? = some s := by
  cases given : t.subtype with
  | none =>
    simp only [checkSubtype, given] at clean
    exact absurd clean Report.complain_clean
  | some subtype =>
    simp only [checkSubtype, given] at clean
    split at clean
    · rename_i valid
      exact Option.isSome_iff_exists.mp valid
    · exact absurd clean Report.complain_clean

theorem checkCodec_clean {single : Option String} (clean : checkCodec t single = pure ()) :
    ((basicTypeOf t).isAny = true ∨ (basicTypeOf t).isChain = true →
      t.serializer.isSome = true ∧ t.deserializer.isSome = true) ∧
      (t.deserializer = none → ∃ tag, single = some tag) := by
  unfold checkCodec at clean
  simp only at clean
  split at clean
  · split at clean
    · exact absurd clean Report.complain_clean
    · rename_i both
      simp only [Bool.or_eq_true, Option.isNone_iff_eq_none, not_or, ← ne_eq,
        Option.ne_none_iff_isSome] at both
      refine ⟨fun _ => both, ?_⟩
      intro none
      simp [none] at both
  · rename_i plain
    simp only [Bool.or_eq_true] at plain
    refine ⟨fun sentinel => absurd sentinel plain, ?_⟩
    intro none
    simp only [none, Option.isSome_none, Bool.false_eq_true, if_false] at clean
    split at clean
    · exact absurd clean Report.complain_clean
    · rename_i natural
      cases single with
      | none => simp at natural
      | some tag => exact ⟨tag, rfl⟩

theorem checkType_sound (clean : checkType t = pure ()) : (basicTypeOf t).Sound := by
  unfold checkType at clean
  split at clean
  · exact absurd clean Report.complain_clean
  · rename_i valid
    simp only at clean
    split at clean
    · exact absurd clean Report.complain_clean
    · rename_i alone
      split at clean
      · exact absurd clean Report.complain_clean
      · obtain ⟨_, subtype, codec⟩ := Report.bind_clean.mp clean
        obtain ⟨both, natural⟩ := checkCodec_clean codec
        refine ⟨?_, ?_, fun sentinel => (both sentinel).1, ?_⟩
        · intro tag there
          apply isValid_exact.mp
          simpa using List.find?_eq_none.mp valid tag there
        · intro binary
          have only : t.wireTypes = ["bindata"] := binary
          rw [only] at subtype
          exact checkSubtype_binary subtype
        · intro missing
          obtain ⟨tag, single⟩ := natural missing
          have plain : ¬((basicTypeOf t).isAny = true ∨ (basicTypeOf t).isChain = true) := by
            intro sentinel
            have given := (both sentinel).2
            rw [show t.deserializer = none from missing] at given
            cases given
          split at single
          · rename_i only
            cases single
            have only : (basicTypeOf t).wireTypes = [tag] := only
            exact ⟨tag, by simp [BasicType.singleWireType?, only, plain]⟩
          · cases single

theorem builtinTypes_sound : ∀ t ∈ Schema.builtinTypes, (basicTypeOf t).Sound := by
  have clean : ∀ t ∈ Schema.builtinTypes, (checkType t).diagnostics = [] := by decide +kernel
  intro t there
  exact checkType_sound (Report.clean_exact.mpr ⟨rfl, clean t there⟩)

end

section

variable {symbols : SymbolTable} {location : Location} {field variantName : String}

theorem type?_sound (checked : ∀ t ∈ symbols.types, checkType t = pure ()) {name : String}
    {t : TypeDef} (known : symbols.type? name = some t) : (basicTypeOf t).Sound := by
  rcases List.mem_append.mp (List.mem_of_find?_eq_some known) with builtin | declared
  · exact builtinTypes_sound t builtin
  · exact checkType_sound (checked t declared)

theorem resolve?_sound (checked : ∀ t ∈ symbols.types, checkType t = pure ()) {name : String}
    {t : TypeDef} (known : symbols.resolve? name = some (.type t)) : (basicTypeOf t).Sound := by
  have found : symbols.type? name = some t := by
    simp only [SymbolTable.resolve?, Option.or_eq_some_iff, Option.map_eq_some_iff] at known
    grind
  exact type?_sound checked found

theorem elementwise_of_sentinel? {r : Resolved} {t : BasicType} (basic : fieldKindOf r = .basic t)
    (other : sentinel? r ≠ some Schema.WireType.chain) : t.isAny = false → t.isChain = false := by
  cases r with
  | type d =>
    cases basic
    grind [sentinel?, basicTypeOf, BasicType.isAny, BasicType.isChain]
  | enum e => cases basic
  | struct s => cases basic

theorem fieldKindOf_sound (checked : ∀ t ∈ symbols.types, checkType t = pure ()) {name : String}
    {r : Resolved} (known : symbols.resolve? name = some r)
    (elementwise : ∀ t, fieldKindOf r = .basic t → t.isAny = false → t.isChain = false) :
    (fieldKindOf r).Sound := by
  cases r with
  | type t => exact ⟨resolve?_sound checked known, elementwise _ rfl⟩
  | enum e => trivial
  | struct s => trivial

theorem alternatives_sound (checked : ∀ t ∈ symbols.types, checkType t = pure ())
    {written : List TypeRef} {alternatives : List Alternative}
    (each : List.Forall₂ (AlternativeOf symbols) written alternatives) :
    ∀ a ∈ alternatives, ∀ t, a.kind = .basic t → t.Sound := by
  induction each with
  | nil => simp
  | cons first _ ih =>
    intro a there
    rcases List.mem_cons.mp there with rfl | later
    · intro t basic
      obtain ⟨_, r, _, known, stands⟩ := first
      have alone := stands.kind
      rw [basic] at alone
      cases r with
      | type d =>
        cases alone
        exact resolve?_sound checked known
      | enum e => cases alone
      | struct s => cases alone
    · exact ih a later

theorem bindFieldKind_sound (checked : ∀ t ∈ symbols.types, checkType t = pure ())
    {type : TypeRef} {kind : FieldKind} {array : Bool}
    (bound : bindFieldKind symbols location field type variantName = pure (some (kind, array))) :
    kind.Sound := by
  obtain ⟨_, _, same, allowed⟩ := bindFieldKind_allowed bound
  cases same
  obtain ⟨_, _, same, kindOf⟩ := bindFieldKind_kindOf bound
  cases same
  cases kindOf with
  | single known =>
    apply fieldKindOf_sound checked known
    intro t basic
    apply elementwise_of_sentinel? basic
    intro chain
    simp [bindFieldKind, nestedAlternative?, SymbolTable.resolveField, SymbolTable.resolveRef,
      SymbolTable.lookup, known, chain, Except.map] at bound
  | array known =>
    apply fieldKindOf_sound checked known
    intro t basic _
    exact (allowed.element rfl t basic).2
  | variant each =>
    intro a there t basic
    exact ⟨alternatives_sound checked each a there t basic,
      (allowed.variant _ rfl).plain a there t basic⟩

theorem completeField_kind {f : FieldDef} {kind : FieldKind} {array : Bool}
    {default : Option DefaultValue} {b : Field}
    (bound : completeField f kind array default = pure (some b)) : b.kind = kind := by
  unfold completeField at bound
  simp only at bound
  split at bound
  · exact absurd bound Report.reject_clean
  · cases Report.pure_clean.mp bound
    rfl

theorem bindField_declared {owner : String} {f : FieldDef} {b : Field}
    (bound : bindField symbols owner f = pure (some b)) :
    ∃ array, declaredKind symbols f (variantNameOf owner f) = pure (some (b.kind, array)) := by
  obtain ⟨_, declared, bound⟩ := Report.bind_clean.mp bound
  obtain ⟨kind, array, rfl, _⟩ := declaredKind_kindOf declared
  refine ⟨array, ?_⟩
  simp only at bound
  split at bound
  · exact absurd bound Report.reject_clean
  · split at bound
    · exact absurd bound Report.reject_clean
    · split at bound
      · rw [completeField_kind bound]
        exact declared
      · obtain ⟨value, evaluated, bound⟩ := Report.bind_clean.mp bound
        obtain ⟨given, rfl⟩ := Option.isSome_iff_exists.mp (bindDefault_given evaluated)
        rw [completeField_kind bound]
        exact declared

theorem builtin_sound {t : TypeDef} (builtin : t ∈ Schema.builtinTypes) :
    (FieldKind.basic (basicTypeOf t)).Sound := by
  have elementwise : ∀ t ∈ Schema.builtinTypes, (basicTypeOf t).isChain = false := by decide
  exact ⟨builtinTypes_sound t builtin, fun _ => elementwise t builtin⟩

theorem bindField_sound (checked : ∀ t ∈ symbols.types, checkType t = pure ()) {owner : String}
    {f : FieldDef} {b : Field} (bound : bindField symbols owner f = pure (some b)) :
    b.kind.Sound := by
  obtain ⟨array, declared⟩ := bindField_declared bound
  unfold declaredKind at declared
  split at declared
  · exact bindFieldKind_sound checked declared
  · obtain ⟨t, known, same⟩ := Option.map_eq_some_iff.mp (Report.pure_clean.mp declared)
    rw [← (Prod.mk.inj same).1]
    cases known
    exact builtin_sound (by decide)

theorem FieldBound.sound (checked : ∀ t ∈ symbols.types, checkType t = pure ()) {f : Field}
    (bound : FieldBound symbols f) : f.Sound := by
  have onWire {f : Field} (wire : f.chained = false) (sound : f.kind.Sound) : f.Sound := by
    refine ⟨fun _ => sound, fun chained => ?_, fun chained => ?_⟩
    · cases wire.symm.trans chained
    · cases wire.symm.trans chained
  cases bound with
  | chainedType known chain =>
    refine ⟨fun other => (nomatch other), ?_, fun _ v same => (nomatch same)⟩
    intro _ t basic
    cases basic
    exact ⟨resolve?_sound checked known, chain⟩
  | chainedStruct =>
    refine ⟨fun _ => trivial, fun _ t basic => (nomatch basic), fun _ v same => (nomatch same)⟩
  | inlined bound =>
    have wire := (bindField_binds bound).chained
    have sound := bindField_sound checked bound
    exact onWire wire sound
  | own bound => exact onWire (bindField_binds bound).chained (bindField_sound checked bound)
  | database known =>
    cases known
    exact onWire rfl (builtin_sound (by decide))

end

end WireSchema.Bound
