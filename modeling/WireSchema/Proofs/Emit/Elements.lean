import WireSchema.Emit.Enumeration
import WireSchema.Proofs.Bound.Codecs

namespace WireSchema.Bound

def BasicType.Unreadable (t : BasicType) : Prop :=
  t.wireTypes = ["null"] ∨ t.wireTypes = ["undefined"] ∨ t.wireTypes = ["regex"]

def FieldKind.Unreadable : FieldKind → Prop
  | .basic t => t.Unreadable
  | .variant v => ∃ a ∈ v.alternatives, ∃ t, a.kind = .basic t ∧ t.Unreadable
  | _ => False

section

variable {t : BasicType}

theorem BasicType.singleWireType?_exact {tag : String} :
    t.singleWireType? = some tag ↔ t.wireTypes = [tag] ∧ t.Plain := by
  unfold BasicType.singleWireType? BasicType.Plain
  grind

theorem BasicType.singleWireType?_sentinel (sentinel : ¬t.Plain) : t.singleWireType? = none := by
  apply Option.eq_none_iff_forall_ne_some.mpr
  intro tag single
  exact sentinel (BasicType.singleWireType?_exact.mp single).2

theorem BasicType.Sound.named (sound : t.Sound) (plain : t.Plain) :
    ∀ tag ∈ t.wireTypes, ∃ k : Bson.Kind, k.name = tag := by
  intro tag there
  rcases sound.tags tag there with rfl | rfl | named
  · exact absurd plain.1 (by simpa [BasicType.isAny] using there)
  · exact absurd plain.2 (by simpa [BasicType.isChain] using there)
  · exact named

theorem BasicType.Sound.several (sound : t.Sound) (several : t.singleWireType? = none) :
    t.deserializer.isSome = true := by
  cases given : t.deserializer with
  | some d => rfl
  | none =>
    obtain ⟨tag, single⟩ := sound.read given
    cases several.symm.trans single

theorem BasicType.Unreadable.single (unreadable : t.Unreadable) :
    ∃ tag, t.singleWireType? = some tag := by
  rcases unreadable with only | only | only
  all_goals
    refine ⟨_, BasicType.singleWireType?_exact.mpr ⟨only, ?_⟩⟩
    simp [BasicType.Plain, BasicType.isAny, BasicType.isChain, only, Schema.WireType.any,
      Schema.WireType.chain]

end

end WireSchema.Bound

namespace WireSchema.Emit

open Bson (Kind)
open WireSchema.Bound (Alternative AlternativeKind BasicType Field FieldKind Variant)

-- Of the errors that the expressions for one element can end in, the rules for declared types leave
-- one: elements of null, undefined or regular expressions have no value to read.

section

variable {t : BasicType} {s : ElementSource} {tag element : String}

theorem deserializerCall_succeeds {argument : String} :
    Succeeds (deserializerCall t argument) ↔ t.deserializer.isSome = true := by
  unfold deserializerCall
  cases t.deserializer with
  | none => simp
  | some d =>
    simp only [Option.isSome_some, iff_true]
    split
    · exact succeeds_ok
    · split <;> exact succeeds_ok

theorem kindOf_succeeds (k : Kind) : Succeeds (kindOf k.name) := by
  unfold kindOf
  rw [Kind.ofName?_exact.mpr rfl]
  exact succeeds_ok

theorem kindsOf_succeeds {tags : List String} (named : ∀ tag ∈ tags, ∃ k : Kind, k.name = tag) :
    Succeeds (kindsOf tags) := by
  apply succeeds_mapM.mpr
  intro tag there
  obtain ⟨k, rfl⟩ := named tag there
  rw [Kind.ofName?_exact.mpr rfl]
  exact succeeds_ok

theorem subtypeOf_succeeds (sound : t.Sound) (binary : t.wireTypes = ["bindata"]) :
    Succeeds (subtypeOf t) := by
  obtain ⟨subtype, known⟩ := sound.binary binary
  unfold subtypeOf
  rw [known]
  exact succeeds_ok

theorem typeCheck_succeeds (sound : t.Sound) (plain : t.Plain) : Succeeds (typeCheck t) := by
  have named := sound.named plain
  unfold typeCheck
  split
  · rename_i tag single
    obtain ⟨only, _⟩ := BasicType.singleWireType?_exact.mp single
    split
    · rename_i binary
      rw [beq_iff_eq.mp binary] at only
      exact succeeds_bind_pure.mpr (subtypeOf_succeeds sound only)
    · obtain ⟨k, rfl⟩ := named tag (by simp [only])
      exact succeeds_bind_pure.mpr (kindOf_succeeds k)
  · exact succeeds_bind_pure.mpr (kindsOf_succeeds named)

theorem accessor_none (k : Kind) : (Schema.WireType.infoOf k).accessor = none ↔
    [k.name] = ["null"] ∨ [k.name] = ["undefined"] ∨ [k.name] = ["regex"] := by
  cases k <;> decide

theorem singleValue_succeeds (sound : t.Sound) (single : t.singleWireType? = some tag) :
    Succeeds (singleValue t tag element) ↔ ¬t.Unreadable := by
  obtain ⟨only, plain⟩ := BasicType.singleWireType?_exact.mp single
  obtain ⟨k, rfl⟩ := sound.named plain tag (by simp [only])
  unfold singleValue BasicType.Unreadable
  rw [only, ← accessor_none, Schema.WireType.info?, Kind.ofName?_exact.mpr rfl, Option.map_some]
  simp only
  cases (Schema.WireType.infoOf k).accessor with
  | none => simp
  | some accessor =>
    simp only [reduceCtorEq, not_false_eq_true, iff_true]
    split
    · rename_i given
      exact deserializerCall_succeeds.mpr given
    · exact succeeds_ok

-- Without a wire type of its own, a type reads elements through its deserializer.
theorem deserializerCall_several (sound : t.Sound) (several : t.singleWireType? = none)
    {argument : String} : Succeeds (deserializerCall t argument) ↔ ¬t.Unreadable := by
  have called : Succeeds (deserializerCall t argument) :=
    deserializerCall_succeeds.mpr (sound.several several)
  refine ⟨fun _ unreadable => ?_, fun _ => called⟩
  obtain ⟨tag, single⟩ := unreadable.single
  cases several.symm.trans single

theorem basicValue_succeeds (sound : t.Sound) (elementwise : t.isAny = false → t.isChain = false) :
    Succeeds (basicValue t s) ↔ ¬t.Unreadable := by
  unfold basicValue
  split
  · rename_i any
    have several : t.singleWireType? = none :=
      BasicType.singleWireType?_sentinel fun plain => absurd plain.1 (by simp [any])
    exact succeeds_bind_pure.trans (deserializerCall_several sound several)
  · rename_i other
    have plain : t.Plain := by
      have notAny : t.isAny = false := by simpa using other
      exact ⟨notAny, elementwise notAny⟩
    refine (succeeds_bind ?_).trans (and_iff_right (typeCheck_succeeds sound plain))
    intro check _
    split
    · rename_i tag single
      exact succeeds_bind_pure.trans (singleValue_succeeds sound single)
    · rename_i several
      exact succeeds_bind_pure.trans (deserializerCall_several sound several)

end

section

variable {v : Variant} {s : ElementSource} {a : Alternative}

theorem alternativeArms_tags {part : List String × List String}
    (emitted : alternativeArms v s a = .ok part) : part.1 = a.wireTypes := by
  unfold alternativeArms at emitted
  unfold Alternative.wireTypes
  simp only at emitted
  split at emitted
  · rename_i kind
    cases emitted
    simp only [kind]
  · rename_i t kind
    simp only [kind]
    split at emitted
    · rename_i tag single
      rw [(BasicType.singleWireType?_exact.mp single).1]
      split at emitted
      all_goals
        obtain ⟨_, _, emitted⟩ := bind_ok_exact.mp emitted
        obtain ⟨_, _, emitted⟩ := bind_ok_exact.mp emitted
        cases emitted
        rfl
    · obtain ⟨_, _, emitted⟩ := bind_ok_exact.mp emitted
      obtain ⟨_, _, emitted⟩ := bind_ok_exact.mp emitted
      cases emitted
      rfl

theorem alternativeArms_succeeds (sound : ∀ t, a.kind = .basic t → t.Sound ∧ t.Plain) :
    Succeeds (alternativeArms v s a) ↔ ∀ t, a.kind = .basic t → ¬t.Unreadable := by
  unfold alternativeArms
  simp only
  split
  · rename_i kind
    simp [kind]
  · rename_i t kind
    obtain ⟨sound, plain⟩ := sound t kind
    simp only [kind, AlternativeKind.basic.injEq, forall_eq']
    split
    · rename_i tag single
      obtain ⟨only, _⟩ := BasicType.singleWireType?_exact.mp single
      have value : Succeeds (singleValue t tag s.element) ↔ ¬t.Unreadable :=
        singleValue_succeeds sound single
      split
      · rename_i binary
        rw [beq_iff_eq.mp binary] at only
        refine (succeeds_bind ?_).trans (and_iff_right (subtypeOf_succeeds sound only))
        exact fun _ _ => succeeds_bind_pure.trans value
      · obtain ⟨k, rfl⟩ := sound.named plain tag (by simp [only])
        refine (succeeds_bind ?_).trans (and_iff_right (kindOf_succeeds k))
        exact fun _ _ => succeeds_bind_pure.trans value
    · rename_i several
      refine (succeeds_bind ?_).trans ((and_iff_left trivial).trans
        (deserializerCall_several sound several))
      intro value _
      refine iff_true_intro (succeeds_bind_pure.mpr (succeeds_mapM.mpr ?_))
      intro tag there
      obtain ⟨k, rfl⟩ := sound.named plain tag there
      exact succeeds_bind_pure.mpr (kindOf_succeeds k)

theorem alternative_named (sound : ∀ t, a.kind = .basic t → t.Sound ∧ t.Plain) :
    ∀ tag ∈ a.wireTypes, ∃ k : Kind, k.name = tag := by
  unfold Alternative.wireTypes
  split
  · rename_i t kind
    exact (sound t kind).1.named (sound t kind).2
  · intro tag there
    exact ⟨.object, (List.mem_singleton.mp there).symm⟩

theorem variantValue_succeeds (sound : FieldKind.Sound (.variant v)) :
    Succeeds (variantValue v s) ↔ ¬FieldKind.Unreadable (.variant v) := by
  have each : Succeeds (v.alternatives.mapM (alternativeArms v s)) ↔
      ¬FieldKind.Unreadable (.variant v) := by
    rw [succeeds_mapM]
    constructor
    · rintro runs ⟨a, there, t, basic, unreadable⟩
      exact (alternativeArms_succeeds (sound a there)).mp (runs a there) t basic unreadable
    · intro readable a there
      apply (alternativeArms_succeeds (sound a there)).mpr
      exact fun t basic unreadable => readable ⟨a, there, t, basic, unreadable⟩
  unfold variantValue
  refine (succeeds_bind ?_).trans ((and_iff_left trivial).trans each)
  intro parts emitted
  refine iff_true_intro (succeeds_bind_pure.mpr (kindsOf_succeeds ?_))
  intro tag there
  obtain ⟨part, among, inPart⟩ := List.mem_flatMap.mp there
  obtain ⟨a, alternative, ran⟩ := (mapM_ok_parts emitted).2 part among
  rw [alternativeArms_tags ran] at inPart
  exact alternative_named (sound a alternative) tag inPart

theorem elementValue_succeeds {kind : FieldKind} (sound : kind.Sound) :
    Succeeds (elementValue kind s) ↔ ¬kind.Unreadable := by
  unfold elementValue
  cases kind with
  | basic t => exact basicValue_succeeds sound.1 sound.2
  | enum e =>
    refine iff_of_true ?_ fun none => none
    exact succeeds_pure
  | struct target =>
    refine iff_of_true ?_ fun none => none
    exact succeeds_pure
  | variant v => exact succeeds_bind_pure.trans (variantValue_succeeds sound)

end

section

variable {t : BasicType} {f : Field} {expr name place : String} {isRef : Bool}

theorem basicToBson_succeeds (sound : t.Sound) : Succeeds (basicToBson t expr isRef) := by
  unfold basicToBson
  split
  · split <;> exact succeeds_pure
  · split
    · rename_i binary
      simp only [Bool.and_eq_true, beq_iff_eq] at binary
      have only := (BasicType.singleWireType?_exact.mp binary.1).1
      exact succeeds_bind_pure.mpr (subtypeOf_succeeds sound only)
    · split <;> exact succeeds_pure

theorem valueToBson_succeeds {kind : FieldKind} (sound : kind.Sound) :
    Succeeds (valueToBson kind expr isRef) := by
  cases kind with
  | basic t => exact basicToBson_succeeds sound.1
  | enum e => exact succeeds_ok
  | struct target => exact succeeds_ok
  | variant v => exact succeeds_ok

theorem alternativeToBson_succeeds {kind : AlternativeKind}
    (sound : ∀ t, kind = .basic t → t.Sound) : Succeeds (alternativeToBson kind expr) := by
  cases kind with
  | basic t => exact basicToBson_succeeds (sound t rfl)
  | struct target => exact succeeds_ok

theorem anySerializer_succeeds {value : String} (written : t.serializer.isSome = true) :
    Succeeds (anySerializer t name value) := by
  obtain ⟨serializer, given⟩ := Option.isSome_iff_exists.mp written
  unfold anySerializer
  rw [given]
  simp only
  split <;> exact succeeds_ok

theorem presentValue_succeeds (sound : f.kind.Sound) :
    Succeeds (presentValue f name expr isRef) := by
  have plain (expr : String) (isRef : Bool) : Succeeds (valueToBson f.kind expr isRef) :=
    valueToBson_succeeds sound
  unfold presentValue
  simp only
  split
  · rename_i t kind
    rw [kind] at sound
    split
    · rename_i any
      exact anySerializer_succeeds (sound.1.written (.inl any))
    · split <;> exact succeeds_bind_pure.mpr (plain _ _)
  · split <;> exact succeeds_bind_pure.mpr (plain _ _)

theorem placeSerializer_succeeds (sound : f.kind.Sound) :
    Succeeds (placeSerializer f name place) := by
  unfold placeSerializer
  split
  · exact succeeds_bind_pure.mpr (presentValue_succeeds sound)
  · exact presentValue_succeeds sound

end

end WireSchema.Emit
