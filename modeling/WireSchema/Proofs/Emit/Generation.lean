import Mathlib.Data.List.Nodup
import WireSchema.Emit.File
import WireSchema.Proofs.Emit.Elements
import WireSchema.Proofs.Evolution.Enumerations

namespace WireSchema.Bound

def Struct.elementField? (s : Struct) : Option Field :=
  s.command.bind (·.commandField)

def FieldKind.variant? : FieldKind → Option Variant
  | .variant v => some v
  | _ => none

-- The variants of a struct: of its command value and of its own fields, ignored ones included.
def Struct.variants (s : Struct) : List Variant :=
  (s.elementField?.toList ++ s.fields.filter (·.owner.isNone)).filterMap (·.kind.variant?)

-- The first variant of some name has no alternatives.
def Struct.DeclaresEmpty (s : Struct) : Prop :=
  ∃ v, s.variants.find? (·.rustName == v.rustName) = some v ∧ v.alternatives = []

def Struct.HasEmptyVariant (s : Struct) : Prop :=
  ∃ v ∈ s.variants, v.alternatives = []

def Struct.Unreadable (s : Struct) : Prop :=
  (∃ f, s.elementField? = some f ∧ f.kind.Unreadable) ∨
    ∃ f ∈ Emit.wireFields s, f.ignore = false ∧ f.kind.Unreadable

end WireSchema.Bound

namespace WireSchema.Emit

open WireSchema.Bound (Field FieldKind Idl Struct Variant)

-- Two things can stop generation: a variant without alternatives that a struct declares, and a
-- field that has to be read from elements without a value. All other ways to fail are closed by the
-- rules that a schema is bound by.

structure Emittable (k : Flavour) (s : Struct) : Prop where
  flavour : k.commandField? = s.elementField?
  element : ∀ f, s.elementField? = some f → f.kind.Sound
  fields : ∀ f ∈ s.fields, f.Sound
  sequences : ∀ f ∈ s.fields, f.docSequence = true → f.HoldsSequence

section

variable {k : Flavour} {s : Struct} {f : Field} {t : Tracking}

theorem fieldSteps_succeeds {source : ElementSource} (sound : f.kind.Sound) :
    Succeeds (fieldSteps f source) ↔ ¬f.kind.Unreadable := by
  unfold fieldSteps
  split
  · exact succeeds_bind_pure.trans (elementValue_succeeds sound)
  · exact succeeds_bind_pure.trans (elementValue_succeeds sound)

theorem elementArm_succeeds (sound : f.kind.Sound) :
    Succeeds (elementArm t f) ↔ (f.ignore = false → ¬f.kind.Unreadable) := by
  unfold elementArm
  simp only
  split
  · rename_i ignored
    exact iff_of_true succeeds_pure (by simp [ignored])
  · rename_i taken
    have taken : f.ignore = false := by simpa using taken
    rw [succeeds_bind_pure, fieldSteps_succeeds sound]
    exact (imp_iff_right taken).symm

theorem sequenceArm_succeeds (holds : f.HoldsSequence) : Succeeds (sequenceArm t f) := by
  refine succeeds_bind_pure.mpr ?_
  unfold sequenceValue
  rcases holds.2 with ⟨target, kind⟩ | ⟨type, kind, document⟩
  · rw [kind]
    exact succeeds_ok
  · rw [kind]
    simp only [document, if_true]
    exact succeeds_ok

theorem elementLoop_succeeds {elements : String} (emittable : Emittable k s) :
    Succeeds (elementLoop k s elements) ↔
      ∀ f ∈ wireFields s, f.ignore = false → ¬f.kind.Unreadable := by
  have sound (f : Field) (onWire : f ∈ wireFields s) : f.kind.Sound := by
    obtain ⟨member, wire⟩ := List.mem_filter.mp onWire
    exact (emittable.fields f member).onWire (by simpa using wire)
  unfold elementLoop
  simp only
  split
  · rename_i idle
    simp only [Bool.and_eq_true, List.isEmpty_iff] at idle
    simp [idle.1.2]
  · rw [succeeds_bind_pure, succeeds_mapM]
    exact forall₂_congr fun f onWire => elementArm_succeeds (sound f onWire)

theorem sequenceLoop_succeeds (emittable : Emittable k s) : Succeeds (sequenceLoop s) := by
  unfold sequenceLoop
  simp only
  split
  · exact succeeds_pure
  · refine succeeds_bind_pure.mpr (succeeds_mapM.mpr ?_)
    intro f sequence
    obtain ⟨member, flagged⟩ := List.mem_filter.mp sequence
    exact sequenceArm_succeeds (emittable.sequences f member flagged)

theorem chainedParsers_succeeds (emittable : Emittable k s) : Succeeds (chainedParsers s) := by
  refine succeeds_bind_pure.mpr (succeeds_filterMapM ?_)
  intro f member
  split
  · split <;> exact succeeds_pure
  · rename_i type chained kind
    obtain ⟨sound, chain⟩ := (emittable.fields f member).chained chained type kind
    have several : type.singleWireType? = none :=
      Bound.BasicType.singleWireType?_sentinel fun plain => absurd plain.2 (by simp [chain])
    exact succeeds_bind_pure.mpr (deserializerCall_succeeds.mpr (sound.several several))
  · exact succeeds_pure

theorem commandValue_succeeds (emittable : Emittable k s) :
    Succeeds (commandValue k) ↔ ∀ f, s.elementField? = some f → ¬f.kind.Unreadable := by
  have element := emittable.element
  rw [← emittable.flavour] at element ⊢
  cases k with
  | plain => exact iff_of_true succeeds_pure fun _ none => (nomatch none)
  | ignored => exact iff_of_true succeeds_pure fun _ none => (nomatch none)
  | collection orUuid => exact iff_of_true succeeds_pure fun _ none => (nomatch none)
  | typed f =>
    unfold commandValue
    rw [succeeds_bind_pure, fieldSteps_succeeds (element f rfl)]
    simp [Flavour.commandField?]

theorem readable_exact : ¬s.Unreadable ↔
    (∀ f ∈ wireFields s, f.ignore = false → ¬f.kind.Unreadable) ∧
      ∀ f, s.elementField? = some f → ¬f.kind.Unreadable := by
  unfold Struct.Unreadable
  grind

theorem fillMethod_succeeds (emittable : Emittable k s) :
    Succeeds (fillMethod k s) ↔ ¬s.Unreadable := by
  unfold fillMethod
  simp only
  rw [readable_exact, ← elementLoop_succeeds emittable, ← commandValue_succeeds emittable]
  refine succeeds_bind fun loop _ => ?_
  have rest {g : List Code → List Code → List Code} : Succeeds (do
      let chained ← chainedParsers s
      let command ← commandValue k
      return g chained command) ↔ Succeeds (commandValue k) :=
    (succeeds_bind fun _ _ => succeeds_bind_pure).trans
      (and_iff_right (chainedParsers_succeeds emittable))
  split
  · exact (succeeds_bind fun _ _ => rest).trans (and_iff_right (sequenceLoop_succeeds emittable))
  · exact rest

theorem decoders_succeeds (emittable : Emittable k s) :
    Succeeds (decoders k s) ↔ ¬s.Unreadable := by
  unfold decoders
  exact succeeds_bind_pure.trans (fillMethod_succeeds emittable)

end

section

variable {k : Flavour} {s : Struct} {request : Bool}

theorem commandSerializer_succeeds (emittable : Emittable k s) :
    Succeeds (commandSerializer k) := by
  have element := emittable.element
  rw [← emittable.flavour] at element
  cases k with
  | plain => exact succeeds_ok
  | ignored => exact succeeds_ok
  | collection orUuid => cases orUuid <;> exact succeeds_ok
  | typed f => exact placeSerializer_succeeds (element f rfl)

theorem chainedSerializer_succeeds {f : Field}
    (written : ∀ t, f.kind = .basic t → t.serializer.isSome = true) :
    Succeeds (chainedSerializer f) := by
  unfold chainedSerializer
  split
  · rename_i t kind
    obtain ⟨serializer, given⟩ := Option.isSome_iff_exists.mp (written t kind)
    rw [given]
    simp only
    split <;> exact succeeds_ok
  · exact succeeds_ok

theorem fieldSerializer_succeeds (emittable : Emittable k s) {f : Field} (member : f ∈ s.fields) :
    Succeeds (fieldSerializer request f) := by
  unfold fieldSerializer
  split
  · exact succeeds_ok
  · split
    · rename_i chained
      apply chainedSerializer_succeeds
      intro t kind
      obtain ⟨sound, chain⟩ := (emittable.fields f member).chained chained t kind
      exact sound.written (.inr chain)
    · rename_i own
      have sound := (emittable.fields f member).onWire (by simpa using own)
      split
      · exact succeeds_ok
      · split
        · exact succeeds_ok
        · exact placeSerializer_succeeds sound

theorem fieldsSerializer_succeeds (emittable : Emittable k s) :
    Succeeds (fieldsSerializer k s request) := by
  unfold fieldsSerializer
  refine (succeeds_bind fun _ _ => succeeds_bind_pure).mpr ?_
  refine ⟨commandSerializer_succeeds emittable, succeeds_mapM.mpr ?_⟩
  exact fun f member => fieldSerializer_succeeds emittable member

theorem encoders_succeeds (emittable : Emittable k s) : Succeeds (encoders k s) := by
  unfold encoders
  refine (succeeds_bind fun fields _ => iff_true_intro ?_).mpr
    ⟨fieldsSerializer_succeeds emittable, trivial⟩
  simp only
  split
  · unfold requestSerializer
    refine succeeds_bind_pure.mpr (succeeds_bind_pure.mpr ?_)
    exact fieldsSerializer_succeeds emittable
  · exact succeeds_pure

end

section

variable {k : Flavour} {s : Struct}

theorem mem_keptVariants {variants kept : List Variant} {v : Variant} :
    v ∈ variants.foldl
        (fun kept v => if kept.any (·.rustName == v.rustName) then kept else kept ++ [v]) kept ↔
      v ∈ kept ∨ kept.any (·.rustName == v.rustName) = false ∧
        variants.find? (·.rustName == v.rustName) = some v := by
  induction variants generalizing kept with
  | nil => simp
  | cons w rest ih =>
    rw [List.foldl_cons, ih]
    by_cases same : w.rustName = v.rustName
    · rw [List.find?_cons_of_pos (by simpa using same)]
      by_cases taken : kept.any (·.rustName == v.rustName) = true
      · simp only [same, taken, if_true]
        simp
      · simp only [same, taken, Bool.false_eq_true, if_false]
        grind
    · have apart : v ≠ w := fun one => same (one ▸ rfl)
      rw [List.find?_cons_of_neg (by simpa using same)]
      by_cases taken : kept.any (·.rustName == w.rustName) = true
      · simp [taken]
      · simp [taken, same, apart]

theorem mem_declaredVariants (emittable : Emittable k s) {v : Variant} :
    v ∈ declaredVariants k s ↔ s.variants.find? (·.rustName == v.rustName) = some v := by
  have kept : declaredVariants k s = s.variants.foldl
      (fun kept v => if kept.any (·.rustName == v.rustName) then kept else kept ++ [v]) [] := by
    unfold declaredVariants
    rw [emittable.flavour]
    rfl
  rw [kept, mem_keptVariants]
  simp

theorem variantDeclaration_succeeds {comparable : Bool} {v : Variant} :
    Succeeds (variantDeclaration comparable v) ↔ v.alternatives ≠ [] := by
  unfold variantDeclaration
  split
  · rename_i none
    simp [none]
  · rename_i some
    simp [some]

theorem structDeclaration_succeeds (emittable : Emittable k s) :
    Succeeds (structDeclaration k s) ↔ ¬s.DeclaresEmpty := by
  unfold structDeclaration Struct.DeclaresEmpty
  rw [succeeds_bind_pure, succeeds_mapM]
  simp only [mem_declaredVariants emittable, variantDeclaration_succeeds]
  grind

theorem variantDefinition_succeeds {v : Variant} (sound : FieldKind.Sound (.variant v)) :
    Succeeds (variantDefinition v) := by
  unfold variantDefinition
  refine succeeds_bind_pure.mpr (succeeds_mapM.mpr ?_)
  intro a there
  refine succeeds_bind_pure.mpr (alternativeToBson_succeeds ?_)
  exact fun t basic => (sound a there t basic).1

theorem variants_sound (emittable : Emittable k s) {v : Variant} (there : v ∈ s.variants) :
    FieldKind.Sound (.variant v) := by
  obtain ⟨f, among, holds⟩ := List.mem_filterMap.mp there
  have kind : f.kind = .variant v := by
    cases held : f.kind <;> simp_all [FieldKind.variant?]
  rw [← kind]
  rcases List.mem_append.mp among with element | own
  · exact emittable.element f (Option.mem_toList.mp element)
  · have sound := emittable.fields f (List.mem_filter.mp own).1
    apply sound.onWire
    cases chained : f.chained with
    | false => rfl
    | true => exact absurd kind (sound.variant chained v)

theorem structDefinition_succeeds (emittable : Emittable k s) :
    Succeeds (structDefinition k s) ↔ ¬s.Unreadable := by
  have variants : Succeeds ((declaredVariants k s).mapM variantDefinition) := by
    apply succeeds_mapM.mpr
    intro v there
    have among := List.mem_of_find?_eq_some ((mem_declaredVariants emittable).mp there)
    exact variantDefinition_succeeds (variants_sound emittable among)
  unfold structDefinition
  refine (succeeds_bind fun _ _ => ?_).trans (and_iff_right variants)
  refine (succeeds_bind fun _ _ => ?_).trans
    ((and_iff_left trivial).trans (decoders_succeeds emittable))
  exact iff_true_intro (succeeds_bind_pure.mpr (encoders_succeeds emittable))

end

section

variable {symbols : Schema.SymbolTable} {k : Flavour} {s : Struct}

theorem flavour_succeeds (wellFormed : s.WellFormed) : Succeeds (Flavour.of s) := by
  unfold Flavour.of
  split
  · exact succeeds_ok
  · rename_i c command
    split
    · exact succeeds_ok
    · exact succeeds_ok
    · exact succeeds_ok
    · rename_i typed
      have element := (wellFormed.command c command).element.mpr typed
      obtain ⟨f, given⟩ := Option.isSome_iff_exists.mp element
      rw [given]
      exact succeeds_ok

theorem flavour_element (wellFormed : s.WellFormed) (flavour : Flavour.of s = .ok k) :
    k.commandField? = s.elementField? := by
  unfold Flavour.of at flavour
  unfold Struct.elementField?
  cases command : s.command with
  | none =>
    simp only [command] at flavour
    cases flavour
    rfl
  | some c =>
    have element := (wellFormed.command c command).element
    simp only [command] at flavour
    cases rule : c.namespaceRule with
    | typed =>
      obtain ⟨f, given⟩ := Option.isSome_iff_exists.mp (element.mpr rule)
      simp only [rule, given] at flavour
      cases flavour
      exact given.symm
    | _ =>
      have absent : c.commandField = none := by
        simpa [rule] using element
      simp only [rule] at flavour
      cases flavour
      exact absent.symm

theorem emittable_of_bound (checked : ∀ t ∈ symbols.types, Bound.checkType t = pure ())
    (bound : Bound.StructBound symbols s) (flavour : Flavour.of s = .ok k) : Emittable k s := by
  refine ⟨flavour_element bound.wellFormed flavour, ?_, ?_, ?_⟩
  · intro f element
    obtain ⟨c, command, element⟩ := Option.bind_eq_some_iff.mp element
    obtain ⟨_, _, _, _, kind, array, declared, rfl⟩ := bound.element command element
    exact Bound.bindFieldKind_sound checked declared
  · exact fun f member => (bound.field member).sound checked
  · exact fun f member flagged => (bound.wellFormed.sequences f member flagged).1

end

section

variable {idl : Idl} {inputName includePath : String}

theorem eachStruct_succeeds {emit : Flavour → Struct → Except EmitError (List Code)}
    {P : Struct → Prop} {pairs : List (Flavour × Struct)} (ran : flavours idl = .ok pairs)
    (exact : ∀ k s, s ∈ idl.structs → Flavour.of s = .ok k → (Succeeds (emit k s) ↔ P s)) :
    Succeeds (pairs.mapM fun (k, s) => emit k s) ↔ ∀ s ∈ idl.structs, P s := by
  rw [succeeds_mapM]
  constructor
  · intro each s member
    obtain ⟨pair, there, made⟩ := (mapM_ok_parts ran).1 s member
    obtain ⟨k, flavour, rfl⟩ := map_ok_exact.mp made
    exact (exact k s member flavour).mp (each (k, s) there)
  · intro each pair there
    obtain ⟨s, member, made⟩ := (mapM_ok_parts ran).2 pair there
    obtain ⟨k, flavour, rfl⟩ := map_ok_exact.mp made
    exact (exact k s member flavour).mpr (each s member)

theorem flavours_succeeds (flavoured : ∀ s ∈ idl.structs, Succeeds (Flavour.of s)) :
    Succeeds (flavours idl) := by
  apply succeeds_mapM.mpr
  exact fun s member => succeeds_map.mpr (flavoured s member)

theorem enumDeclaration_succeeds {e : Bound.Enum} (some : e.values ≠ []) :
    Succeeds (enumDeclaration e) := by
  unfold enumDeclaration
  split
  · contradiction
  · exact succeeds_ok

theorem header_succeeds (enums : ∀ e ∈ idl.enums, e.values ≠ [])
    (flavoured : ∀ s ∈ idl.structs, Succeeds (Flavour.of s))
    (emittable : ∀ s ∈ idl.structs, ∀ k, Flavour.of s = .ok k → Emittable k s) :
    Succeeds (header idl inputName) ↔ ∀ s ∈ idl.structs, ¬s.DeclaresEmpty := by
  have declared : Succeeds (idl.enums.mapM enumDeclaration) :=
    succeeds_mapM.mpr fun e member => enumDeclaration_succeeds (enums e member)
  unfold header
  refine (succeeds_bind fun _ _ => ?_).trans (and_iff_right declared)
  refine (succeeds_bind fun pairs ran => ?_).trans (and_iff_right (flavours_succeeds flavoured))
  rw [succeeds_bind_pure]
  apply eachStruct_succeeds ran
  exact fun k s member flavour => structDeclaration_succeeds (emittable s member k flavour)

theorem source_succeeds (flavoured : ∀ s ∈ idl.structs, Succeeds (Flavour.of s))
    (emittable : ∀ s ∈ idl.structs, ∀ k, Flavour.of s = .ok k → Emittable k s) :
    Succeeds (source idl inputName includePath) ↔ ∀ s ∈ idl.structs, ¬s.Unreadable := by
  unfold source
  refine (succeeds_bind fun pairs ran => ?_).trans (and_iff_right (flavours_succeeds flavoured))
  rw [succeeds_bind_pure]
  apply eachStruct_succeeds ran
  exact fun k s member flavour => structDefinition_succeeds (emittable s member k flavour)

end

theorem generate_succeeds {spec : Schema.Spec} {idl : Idl} (bound : Bound.bind spec = .ok idl)
    (own : ∀ t ∈ spec.symbols.types, t.imported = false) (inputName includePath : String) :
    Succeeds (generate idl inputName includePath) ↔
      ∀ s ∈ idl.structs, ¬s.DeclaresEmpty ∧ ¬s.Unreadable := by
  obtain ⟨types, enums, structs⟩ := Bound.bind_parts bound
  have checked : ∀ t ∈ spec.symbols.types, Bound.checkType t = pure () :=
    fun t member => types t member (own t member)
  have flavoured (s : Struct) (member : s ∈ idl.structs) : Succeeds (Flavour.of s) :=
    flavour_succeeds (structs s member).wellFormed
  have emittable (s : Struct) (member : s ∈ idl.structs) (k : Flavour)
      (flavour : Flavour.of s = .ok k) : Emittable k s :=
    emittable_of_bound checked (structs s member) flavour
  have values (e : Bound.Enum) (member : e ∈ idl.enums) : e.values ≠ [] := by
    obtain ⟨d, binds⟩ := enums e member
    exact (Bound.bindEnum_writes binds).1
  unfold generate
  rw [succeeds_bind fun _ _ => succeeds_bind_pure, header_succeeds values flavoured emittable,
    source_succeeds flavoured emittable]
  exact forall₂_and.symm

-- Where variants have names of their own, no empty one is passed over.
theorem declaresEmpty_exact {s : Struct} (apart : (s.variants.map (·.rustName)).Nodup) :
    s.DeclaresEmpty ↔ s.HasEmptyVariant := by
  constructor
  · rintro ⟨v, first, empty⟩
    exact ⟨v, List.mem_of_find?_eq_some first, empty⟩
  · rintro ⟨v, there, empty⟩
    have found : (s.variants.find? (·.rustName == v.rustName)).isSome = true :=
      List.find?_isSome.mpr ⟨v, there, beq_self_eq_true _⟩
    obtain ⟨first, found⟩ := Option.isSome_iff_exists.mp found
    have named : first.rustName = v.rustName := by simpa using List.find?_some found
    have one := List.inj_on_of_nodup_map apart (List.mem_of_find?_eq_some found) there named
    exact ⟨v, one ▸ found, empty⟩

-- Generation fails for the structs that declare a variant without alternatives, or read elements
-- without a value, and for no others.
theorem generate_exact {spec : Schema.Spec} {idl : Idl} (bound : Bound.bind spec = .ok idl)
    (own : ∀ t ∈ spec.symbols.types, t.imported = false) (inputName includePath : String) :
    ((∃ e, generate idl inputName includePath = .error e) ↔
      ∃ s ∈ idl.structs, s.DeclaresEmpty ∨ s.Unreadable) ∧
    ((∃ texts, generate idl inputName includePath = .ok texts) ↔
      ∀ s ∈ idl.structs, ¬s.DeclaresEmpty ∧ ¬s.Unreadable) ∧
    ∀ s ∈ idl.structs, (s.variants.map (·.rustName)).Nodup →
      (s.DeclaresEmpty ↔ s.HasEmptyVariant) := by
  have succeeds := generate_succeeds bound own inputName includePath
  refine ⟨?_, succeeds, fun s _ apart => declaresEmpty_exact apart⟩
  rw [← not_succeeds, succeeds]
  grind

section

open Schema (Report Spec fieldAt lineOf)

def markedBallot (ignore : Bool) : Spec :=
  { symbols := {
      types := [
        { location := lineOf "ballot.idl" 1, name := "mark", rustType := some "Mark"
          wireTypes := ["null"]
          deserializer := some "read", serializer := some "write" }]
      structs := [
        { location := lineOf "ballot.idl" 2, name := "ballot"
          fields := [
            { fieldAt (lineOf "ballot.idl" 3) "mark" "mark" with ignore }] }] } }

def markType : Bound.BasicType :=
  { name := "mark", rustType := "Mark", wireTypes := ["null"], subtype := none
    serializer := some "write", deserializer := some "read", default := none }

def boundBallot (fields : List Field) : Struct :=
  Bound.boundStruct "ballot" "Ballot" fields

def markField (ignore : Bool) : Field :=
  { name := "mark", rustName := "mark", kind := .basic markType, ignore }

theorem generate_exact_ballot :
    (∃ idl, Bound.bind (markedBallot false) = .ok idl ∧
      idl.structs = [boundBallot [markField false]] ∧
      ∃ e, generate idl "ballot.idl" "ballot.rs" = .error e) ∧
    ∃ idl, Bound.bind (markedBallot true) = .ok idl ∧
      idl.structs = [boundBallot [markField true]] ∧
      ∃ texts, generate idl "ballot.idl" "ballot.rs" = .ok texts := by
  have bound (ignore : Bool) :
      Bound.bind (markedBallot ignore) = .ok (Bound.bindAll (markedBallot ignore)).value := by
    apply Report.toExcept_of_clean
    cases ignore <;> decide +kernel
  have structs (ignore : Bool) : (Bound.bindAll (markedBallot ignore)).value.structs =
      [boundBallot [markField ignore]] := by
    cases ignore <;> decide +kernel
  have own (ignore : Bool) : ∀ t ∈ (markedBallot ignore).symbols.types, t.imported = false := by
    simp [markedBallot]
  refine ⟨⟨_, bound false, structs false, ?_⟩, _, bound true, structs true, ?_⟩
  · apply (generate_exact (bound false) (own false) _ _).1.mpr
    refine ⟨_, by rw [structs]; exact List.mem_singleton_self _, .inr (.inr ?_)⟩
    exact ⟨markField false, by decide, rfl, .inl rfl⟩
  · apply (generate_exact (bound true) (own true) _ _).2.1.mpr
    rw [structs]
    intro s there
    cases List.mem_singleton.mp there
    constructor
    · rintro ⟨v, found, _⟩
      cases found
    · rintro (⟨f, none, _⟩ | ⟨f, onWire, read, _⟩)
      · cases none
      · cases List.mem_singleton.mp onWire
        cases read

-- Two choices whose variants have one name; the second one leaves nothing to choose.
def choices : Spec :=
  { symbols := { structs := [
      { location := lineOf "ballot.idl" 1, name := "ballot"
        fields := [
          { location := lineOf "ballot.idl" 2, name := "choice1"
            type := some (.variant [.single "int", .single "string"]) },
          { location := lineOf "ballot.idl" 3, name := "choice_1"
            type := some (.variant []) }] }] } }

def firstChoice : Variant :=
  { rustName := "BallotChoice1"
    alternatives := [
      ⟨"Int", .basic (Bound.basicTypeOf (Schema.builtinType "int" "i32" "int"))⟩,
      ⟨"String", .basic (Bound.basicTypeOf (Schema.builtinType "string" "String" "string"))⟩] }

def noChoice : Variant :=
  { rustName := "BallotChoice1", alternatives := [] }

def choiceFields : List Field :=
  [{ name := "choice1", rustName := "choice1", kind := .variant firstChoice },
   { name := "choice_1", rustName := "choice_1", kind := .variant noChoice }]

-- The empty variant is taken for the one before it, so code is generated all the same.
theorem empty_variant_unnoticed :
    ∃ idl, Bound.bind choices = .ok idl ∧ idl.structs = [boundBallot choiceFields] ∧
      (boundBallot choiceFields).variants = [firstChoice, noChoice] ∧
      (boundBallot choiceFields).HasEmptyVariant ∧
      ∃ texts, generate idl "ballot.idl" "ballot.rs" = .ok texts := by
  have bound : Bound.bind choices = .ok (Bound.bindAll choices).value :=
    Report.toExcept_of_clean (by decide +kernel)
  have structs : (Bound.bindAll choices).value.structs = [boundBallot choiceFields] := by
    decide +kernel
  have variants : (boundBallot choiceFields).variants = [firstChoice, noChoice] := rfl
  refine ⟨_, bound, structs, variants, ⟨noChoice, by simp [variants], rfl⟩, ?_⟩
  apply (generate_succeeds bound (by simp [choices]) _ _).mpr
  rw [structs]
  intro s there
  cases List.mem_singleton.mp there
  constructor
  · rintro ⟨v, found, empty⟩
    have among := List.mem_of_find?_eq_some found
    rw [variants] at found among
    simp only [List.mem_cons, List.not_mem_nil, or_false] at among
    rcases among with rfl | rfl
    · cases empty
    · exact absurd found (by decide)
  · rintro (⟨f, none, _⟩ | ⟨f, onWire, _, unreadable⟩)
    · cases none
    · have among : f ∈ choiceFields := (List.mem_filter.mp onWire).1
      simp only [choiceFields, List.mem_cons, List.not_mem_nil, or_false] at among
      rcases among with rfl | rfl
      · simp [FieldKind.Unreadable, firstChoice, Bound.BasicType.Unreadable, Bound.basicTypeOf,
          Schema.builtinType] at unreadable
      · simp [FieldKind.Unreadable, noChoice] at unreadable

end

end WireSchema.Emit
