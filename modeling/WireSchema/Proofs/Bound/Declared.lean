import Mathlib.Data.List.Forall2
import WireSchema.Proofs.Bound.Fields
import WireSchema.Proofs.Schema.Table

namespace WireSchema.Bound

open Schema (FieldDef Location Report Resolved ResolvedRef SymbolTable TypeDef TypeRef)

-- Each place that gives up on a field has something to report, so every field without a fault is
-- bound.

def AlternativeKind.alone : AlternativeKind → FieldKind
  | .basic t => .basic t
  | .struct s => .struct s

structure AlternativeFor (r : Resolved) (a : Alternative) : Prop where
  named : a.rustName = Emit.typeName r.name
  kind : a.kind.alone = fieldKindOf r

def AlternativeOf (symbols : SymbolTable) (written : TypeRef) (a : Alternative) : Prop :=
  ∃ name r, written = .single name ∧ symbols.resolve? name = some r ∧ AlternativeFor r a

inductive KindOf (symbols : SymbolTable) (variantName : String) :
    Option TypeRef → FieldKind → Bool → Prop where
  | untyped {t : TypeDef} (known : symbols.type? "object" = some t) :
      KindOf symbols variantName none (.basic (basicTypeOf t)) false
  | single {name : String} {r : Resolved} (known : symbols.resolve? name = some r) :
      KindOf symbols variantName (some (.single name)) (fieldKindOf r) false
  | array {name : String} {r : Resolved} (known : symbols.resolve? name = some r) :
      KindOf symbols variantName (some (.array name)) (fieldKindOf r) true
  | variant {written : List TypeRef} {alternatives : List Alternative}
      (each : List.Forall₂ (AlternativeOf symbols) written alternatives) :
      KindOf symbols variantName (some (.variant written))
        (.variant { rustName := variantName, alternatives }) false

-- A declaration with the kind that its type leads to and the value of its default.
def filledIn (f : FieldDef) (kind : FieldKind) (array : Bool) (default : Option DefaultValue) :
    Field :=
  { name := f.name, rustName := memberNameOf (f.rustName.getD f.name)
    description := f.description, kind, array, optional := f.optional, ignore := f.ignore
    default, validator := bindValidator f.validator
    comparisonOrder := f.comparisonOrder, docSequence := f.docSequence
    requestOnly := f.requestOnly, unstable := f.unstable }

def variantNameOf (owner : String) (f : FieldDef) : String :=
  owner ++ Emit.typeName (memberNameOf (f.rustName.getD f.name))

def FieldOf (symbols : SymbolTable) (owner : String) (f : FieldDef) (b : Field) : Prop :=
  ∃ kind array default, KindOf symbols (variantNameOf owner f) f.type kind array ∧
    default.isSome = f.default.isSome ∧ b = filledIn f kind array default

section

variable {location : Location} {field variantName owner : String} {symbols : SymbolTable}

theorem addAlternative_adds {d next : VariantDraft} {r : Resolved}
    (ran : addAlternative location field d r = pure next) :
    ∃ a, next.alternatives = d.alternatives ++ [a] ∧ AlternativeFor r a := by
  unfold addAlternative at ran
  cases r with
  | type t =>
    simp only at ran
    split at ran
    · exact absurd ran Report.complain_bind
    · obtain ⟨_, _, ran⟩ := Report.bind_clean.mp ran
      cases Report.pure_clean.mp ran
      exact ⟨_, rfl, rfl, rfl⟩
  | enum e => exact absurd ran Report.complain_bind
  | struct s =>
    simp only at ran
    split at ran
    · exact absurd ran Report.complain_bind
    · obtain ⟨_, _, ran⟩ := Report.bind_clean.mp ran
      cases Report.pure_clean.mp ran
      exact ⟨_, rfl, rfl, rfl⟩

theorem bindVariant_alternatives {resolved : List Resolved} {rustName : String}
    {found : Option Variant} (bound : bindVariant location field resolved rustName = pure found) :
    ∃ alternatives, found = some { rustName, alternatives } ∧
      List.Forall₂ AlternativeFor resolved alternatives := by
  obtain ⟨v, rfl, ran⟩ := Report.ifClean_exact.mp bound
  obtain ⟨d, folded, result⟩ := Report.bind_clean.mp ran
  cases Report.pure_clean.mp result
  refine ⟨_, rfl, ?_⟩
  refine Report.foldlM_clean
    (P := fun done (d : VariantDraft) => List.Forall₂ AlternativeFor done d.alternatives)
    folded .nil ?_
  intro done r before next so step
  obtain ⟨a, added, stands⟩ := addAlternative_adds step
  rw [added]
  exact List.rel_append so (.cons stands .nil)

theorem lookupAlternatives_each {written : List TypeRef} {resolved : List Resolved}
    (looked : symbols.lookupAlternatives written = .ok resolved) :
    List.Forall₂ (fun t r => ∃ name, t = .single name ∧ symbols.resolve? name = some r)
      written resolved := by
  induction written generalizing resolved with
  | nil =>
    cases looked
    exact .nil
  | cons t rest ih =>
    cases t with
    | single name =>
      obtain ⟨r, first, looked⟩ := bind_ok_exact.mp looked
      obtain ⟨more, others, looked⟩ := bind_ok_exact.mp looked
      cases looked
      exact .cons ⟨name, rfl, SymbolTable.lookup_exact.mp first⟩ (ih others)
    | array element => cases looked
    | variant inner => cases looked

theorem alternatives_compose {written : List TypeRef} {resolved : List Resolved}
    {alternatives : List Alternative}
    (names : List.Forall₂ (fun t r => ∃ name, t = .single name ∧ symbols.resolve? name = some r)
      written resolved)
    (each : List.Forall₂ AlternativeFor resolved alternatives) :
    List.Forall₂ (AlternativeOf symbols) written alternatives := by
  induction names generalizing alternatives with
  | nil =>
    cases each
    exact .nil
  | cons known _ ih =>
    obtain ⟨name, single, found⟩ := known
    cases each with
    | cons stands others => exact .cons ⟨name, _, single, found, stands⟩ (ih others)

theorem bindFieldKind_kindOf {type : TypeRef} {found : Option (FieldKind × Bool)}
    (bound : bindFieldKind symbols location field type variantName = pure found) :
    ∃ kind array, found = some (kind, array) ∧
      KindOf symbols variantName (some type) kind array := by
  unfold bindFieldKind at bound
  split at bound
  · exact absurd bound Report.reject_clean
  · obtain ⟨resolved, known, bound⟩ := Report.bind_clean.mp bound
    unfold SymbolTable.resolveField at known
    split at known
    · rename_i r resolves
      cases Report.pure_clean.mp known
      cases type with
      | single name =>
        obtain ⟨target, looked, rfl⟩ := map_ok_exact.mp resolves
        simp only at bound
        split at bound
        · exact absurd bound Report.reject_clean
        · cases Report.pure_clean.mp bound
          exact ⟨_, _, rfl, .single (SymbolTable.lookup_exact.mp looked)⟩
      | array name =>
        obtain ⟨target, looked, rfl⟩ := map_ok_exact.mp resolves
        simp only at bound
        split at bound
        · exact absurd bound Report.reject_clean
        · cases Report.pure_clean.mp bound
          exact ⟨_, _, rfl, .array (SymbolTable.lookup_exact.mp looked)⟩
      | variant written =>
        obtain ⟨targets, looked, rfl⟩ := map_ok_exact.mp resolves
        obtain ⟨choice, chosen, bound⟩ := Report.bind_clean.mp bound
        obtain ⟨alternatives, rfl, each⟩ := bindVariant_alternatives chosen
        cases Report.pure_clean.mp bound
        exact ⟨_, _, rfl, .variant (alternatives_compose (lookupAlternatives_each looked) each)⟩
    · exact absurd known Report.reject_clean

-- The type of objects is built in, so a field without a type has a kind as well.
theorem type?_object (symbols : SymbolTable) : ∃ t, symbols.type? "object" = some t := by
  simp [SymbolTable.type?, Schema.builtinTypes, Schema.builtinType]

theorem declaredKind_kindOf {f : FieldDef} {found : Option (FieldKind × Bool)}
    (bound : declaredKind symbols f variantName = pure found) :
    ∃ kind array, found = some (kind, array) ∧ KindOf symbols variantName f.type kind array := by
  unfold declaredKind at bound
  split at bound
  · rename_i type typed
    rw [typed]
    exact bindFieldKind_kindOf bound
  · rename_i untyped
    rw [untyped]
    obtain ⟨t, known⟩ := type?_object symbols
    rw [known, Report.pure_clean] at bound
    exact ⟨_, _, bound.symm, .untyped known⟩

theorem bindDefault_given {e : Schema.Expression} {kind : FieldKind} {found : Option DefaultValue}
    (bound : bindDefault symbols location field e kind = pure found) : found.isSome = true := by
  cases kind with
  | basic t =>
    cases Report.pure_clean.mp bound
    rfl
  | enum target =>
    unfold bindDefault at bound
    simp only at bound
    split at bound
    · cases Report.pure_clean.mp bound
      rfl
    · exact absurd bound Report.reject_clean
  | struct s =>
    cases Report.pure_clean.mp bound
    rfl
  | variant v =>
    cases Report.pure_clean.mp bound
    rfl

theorem completeField_fieldOf {f : FieldDef} {kind : FieldKind} {array : Bool}
    {default : Option DefaultValue} {found : Option Field}
    (bound : completeField f kind array default = pure found)
    (declared : KindOf symbols (variantNameOf owner f) f.type kind array)
    (given : default.isSome = f.default.isSome) :
    ∃ b, found = some b ∧ FieldOf symbols owner f b := by
  unfold completeField at bound
  simp only at bound
  split at bound
  · exact absurd bound Report.reject_clean
  · cases Report.pure_clean.mp bound
    exact ⟨_, rfl, kind, array, default, declared, given, rfl⟩

theorem bindField_fieldOf {f : FieldDef} {found : Option Field}
    (bound : bindField symbols owner f = pure found) :
    ∃ b, found = some b ∧ FieldOf symbols owner f b := by
  obtain ⟨pair, declared, bound⟩ := Report.bind_clean.mp bound
  obtain ⟨kind, array, rfl, kindOf⟩ := declaredKind_kindOf declared
  simp only at bound
  split at bound
  · exact absurd bound Report.reject_clean
  · split at bound
    · exact absurd bound Report.reject_clean
    · cases default : f.default with
      | none =>
        simp only [default] at bound
        exact completeField_fieldOf bound kindOf (by simp [default])
      | some e =>
        simp only [default] at bound
        obtain ⟨value, evaluated, bound⟩ := Report.bind_clean.mp bound
        obtain ⟨given, rfl⟩ := Option.isSome_iff_exists.mp (bindDefault_given evaluated)
        exact completeField_fieldOf bound kindOf (by simp [default])

end

end WireSchema.Bound
