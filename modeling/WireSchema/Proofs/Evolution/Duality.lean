import WireSchema.Proofs.Evolution.Diagonal
import WireSchema.Proofs.Evolution.Leaves

namespace WireSchema.Evolution

open Schema (Resolved ResolvedRef StructDef)

-- For types without structs and without the wildcard the rule is a relation between what is written
-- and what is read, and a comparison in any direction is silent exactly where the relation holds.

inductive Leaf : Resolved → Prop where
  | type {t : Schema.TypeDef} (plain : isAny t = false) : Leaf (.type t)
  | enum {e : Schema.EnumDef} : Leaf (.enum e)

def Leaves (r : ResolvedRef) : Prop :=
  ∀ a ∈ targets r, Leaf a

inductive Covered : Resolved → Resolved → Prop where
  | types {t u : Schema.TypeDef} (kept : ∀ tag ∈ t.wireTypes, tag ∈ u.wireTypes) :
      Covered (.type t) (.type u)
  | enums {e g : Schema.EnumDef}
      (kept : ∀ value ∈ e.values.map (·.value), value ∈ g.values.map (·.value)) :
      Covered (.enum e) (.enum g)

def Finds (read : List Resolved) (written : Resolved) : Prop :=
  ∃ found, counterpart? read written = some found ∧ Covered written found

-- What is written under the first type is read under the second. A single type may turn into a
-- variant, never the other way round, and arrays stay arrays.
inductive Widens : ResolvedRef → ResolvedRef → Prop where
  | single {a b : Resolved} (covered : Covered a b) : Widens (.single a) (.single b)
  | array {a b : Resolved} (covered : Covered a b) : Widens (.array a) (.array b)
  | joined {a : Resolved} {read : List Resolved} (finds : Finds read a) :
      Widens (.single a) (.variant read)
  | variant {written read : List Resolved} (each : ∀ a ∈ written, Finds read a) :
      Widens (.variant written) (.variant read)

section

variable {p : Pairing} {d : Direction} {field : String} {l : Ledger} {findings : List Finding}

theorem quiet_fault {cause : Cause} : ¬Quiet [p.fault cause] :=
  fun quiet => quiet _ (List.mem_singleton_self _)

theorem quiet_nil_exact (flat : ∀ s t, Finding.descend s t ∉ findings) :
    Quiet findings ↔ findings = [] := by
  constructor
  · intro quiet
    refine List.eq_nil_iff_forall_not_mem.mpr fun finding member => ?_
    cases finding with
    | fault e => exact quiet e member
    | descend s t => exact flat s t member
  · rintro rfl
    exact fun _ => List.not_mem_nil

theorem quiet_counterpart {alternatives : List Resolved} {wanted : Resolved}
    (compare : Resolved → List Finding) (change : TypeChange) :
    Quiet (match counterpart? alternatives wanted with
        | some found => compare found
        | none => [p.typeFault d change]) ↔
      ∃ found, counterpart? alternatives wanted = some found ∧ Quiet (compare found) := by
  cases counterpart? alternatives wanted with
  | none =>
    refine iff_of_false quiet_fault ?_
    rintro ⟨_, found, _⟩
    cases found
  | some found => simp

theorem walk_silent (located : Located p findings) :
    (walk p d l findings).found = l.found ↔ ∀ e, ¬Exposes p d (· ∉ l.visited) findings e := by
  have split : l = ({ visited := l.visited } : Ledger).after l.found := by
    simp [Ledger.after]
  have added (e : Incompatibility) :
      e ∈ (walk p d { visited := l.visited } findings).found ↔
        Exposes p d (· ∉ l.visited) findings e := by
    simpa using walk_exact (l := { visited := l.visited }) located
  conv_lhs => rw [split, walk_after]
  simp only [Ledger.after, List.append_nil, List.append_right_eq_self,
    List.eq_nil_iff_forall_not_mem, added]

theorem walk_flat (flat : ∀ s t, Finding.descend s t ∉ findings) :
    (walk p d l findings).found = l.found ↔ Quiet findings := by
  rw [walk_silent fun s t member => absurd member (flat s t)]
  refine forall_congr' fun e => not_congr ⟨fun exposes => ?_, .here⟩
  cases exposes with
  | here member => exact member
  | entering member _ _ => exact absurd member (flat _ _)

theorem covered_types {t u : Schema.TypeDef} :
    Covered (.type t) (.type u) ↔ ∀ tag ∈ t.wireTypes, tag ∈ u.wireTypes := by
  refine ⟨fun covered => ?_, .types⟩
  cases covered with
  | types kept => exact kept

theorem covered_enums {e g : Schema.EnumDef} :
    Covered (.enum e) (.enum g) ↔
      ∀ value ∈ e.values.map (·.value), value ∈ g.values.map (·.value) := by
  refine ⟨fun covered => ?_, .enums⟩
  cases covered with
  | enums kept => exact kept

theorem not_covered_type {t : Schema.TypeDef} {e : Schema.EnumDef} :
    ¬Covered (.type t) (.enum e) := by
  intro covered
  cases covered

theorem not_covered_enum {e : Schema.EnumDef} {t : Schema.TypeDef} :
    ¬Covered (.enum e) (.type t) := by
  intro covered
  cases covered

theorem compareResolved_quiet {old new : Resolved} (oldLeaf : Leaf old) (newLeaf : Leaf new) :
    Quiet (compareResolved p d field old new) ↔ Covered (d.writer old new) (d.reader old new) := by
  cases oldLeaf with
  | @type t oldPlain =>
    cases newLeaf with
    | @type u newPlain =>
      rw [compareResolved, quiet_nil_exact fun s t => descend_compareTypes,
        compareTypes_silent oldPlain newPlain]
      cases d <;> exact covered_types.symm
    | enum =>
      cases d with
      | reply => exact iff_of_false quiet_fault not_covered_enum
      | parameter => exact iff_of_false quiet_fault not_covered_type
      | commandType => exact iff_of_false quiet_fault not_covered_type
  | @enum e =>
    cases newLeaf with
    | type _ =>
      cases d with
      | reply => exact iff_of_false quiet_fault not_covered_type
      | parameter => exact iff_of_false quiet_fault not_covered_enum
      | commandType => exact iff_of_false quiet_fault not_covered_enum
    | @enum g =>
      rw [compareResolved, quiet_nil_exact fun s t => descend_compareEnums, compareEnums_silent]
      cases d <;> exact covered_enums.symm

theorem compareVariants_quiet {old new : List Resolved} (oldLeaves : ∀ a ∈ old, Leaf a)
    (newLeaves : ∀ a ∈ new, Leaf a) :
    Quiet (compareVariants p d field old new) ↔
      ∀ a ∈ d.writer old new, Finds (d.reader old new) a := by
  have asked (d : Direction) (request : d ≠ .reply) :
      Quiet (compareVariants p d field old new) ↔ ∀ a ∈ old, Finds new a := by
    rw [compareVariants_request request, quiet_flatMap]
    refine forall₂_congr fun a member =>
      (quiet_counterpart (compareResolved p d field a) (.noCounterpart field a.name)).trans ?_
    refine exists_congr fun found => and_congr_right fun counter => ?_
    have leaf := newLeaves found (List.mem_of_find?_eq_some counter)
    rw [compareResolved_quiet (oldLeaves a member) leaf]
    cases d with
    | reply => exact absurd rfl request
    | parameter => rfl
    | commandType => rfl
  cases d with
  | parameter => exact asked .parameter (by decide)
  | commandType => exact asked .commandType (by decide)
  | reply =>
    simp only [compareVariants, quiet_flatMap]
    refine forall₂_congr fun a member => (quiet_counterpart (compareResolved p .reply field · a)
      (.noCounterpart field a.name)).trans ?_
    refine exists_congr fun found => and_congr_right fun counter => ?_
    have leaf := oldLeaves found (List.mem_of_find?_eq_some counter)
    exact compareResolved_quiet leaf (newLeaves a member)

theorem widens_single {a b : Resolved} : Widens (.single a) (.single b) ↔ Covered a b := by
  refine ⟨fun widens => ?_, .single⟩
  cases widens with
  | single covered => exact covered

theorem widens_array {a b : Resolved} : Widens (.array a) (.array b) ↔ Covered a b := by
  refine ⟨fun widens => ?_, .array⟩
  cases widens with
  | array covered => exact covered

theorem widens_joined {a : Resolved} {read : List Resolved} :
    Widens (.single a) (.variant read) ↔ Finds read a := by
  refine ⟨fun widens => ?_, .joined⟩
  cases widens with
  | joined finds => exact finds

theorem widens_variant {written read : List Resolved} :
    Widens (.variant written) (.variant read) ↔ ∀ a ∈ written, Finds read a := by
  refine ⟨fun widens => ?_, .variant⟩
  cases widens with
  | variant each => exact each

theorem compareRefs_quiet {old new : ResolvedRef} (oldLeaves : Leaves old)
    (newLeaves : Leaves new) :
    Quiet (compareRefs p d field old new) ↔ Widens (d.writer old new) (d.reader old new) := by
  cases old with
  | single a =>
    have oldLeaf := oldLeaves a (List.mem_singleton_self a)
    cases new with
    | single b =>
      have newLeaf := newLeaves b (List.mem_singleton_self b)
      rw [compareRefs, compareResolved_quiet oldLeaf newLeaf]
      cases d <;> exact widens_single.symm
    | array b => cases d <;> exact iff_of_false quiet_fault fun widens => by cases widens
    | variant read =>
      have asked (d : Direction) : Quiet (match counterpart? read a with
          | some found => compareResolved p d field a found
          | none => [p.typeFault d (.variantWithout field a.name)]) ↔
          ∃ found, counterpart? read a = some found ∧
            Covered (d.writer a found) (d.reader a found) := by
        rw [quiet_counterpart (compareResolved p d field a) (.variantWithout field a.name)]
        refine exists_congr fun found => and_congr_right fun counter => ?_
        exact compareResolved_quiet oldLeaf (newLeaves found (List.mem_of_find?_eq_some counter))
      cases d with
      | reply => exact iff_of_false quiet_fault fun widens => by cases widens
      | parameter => exact (asked .parameter).trans widens_joined.symm
      | commandType => exact (asked .commandType).trans widens_joined.symm
  | array a =>
    have oldLeaf := oldLeaves a (List.mem_singleton_self a)
    cases new with
    | array b =>
      have newLeaf := newLeaves b (List.mem_singleton_self b)
      rw [compareRefs, compareResolved_quiet oldLeaf newLeaf]
      cases d <;> exact widens_array.symm
    | single b => cases d <;> exact iff_of_false quiet_fault fun widens => by cases widens
    | variant read => cases d <;> exact iff_of_false quiet_fault fun widens => by cases widens
  | variant alternatives =>
    cases new with
    | variant read =>
      have each : Quiet (compareVariants p d field alternatives read) ↔
          ∀ a ∈ d.writer alternatives read, Finds (d.reader alternatives read) a :=
        compareVariants_quiet oldLeaves newLeaves
      rw [compareRefs, each]
      cases d <;> exact widens_variant.symm
    | array b => cases d <;> exact iff_of_false quiet_fault fun widens => by cases widens
    | single b =>
      have newLeaf := newLeaves b (List.mem_singleton_self b)
      cases d with
      | parameter => exact iff_of_false quiet_fault fun widens => by cases widens
      | commandType => exact iff_of_false quiet_fault fun widens => by cases widens
      | reply =>
        have answered : Quiet (match counterpart? alternatives b with
            | some found => compareResolved p .reply field found b
            | none => [p.typeFault .reply (.notInVariant field b.name)]) ↔
            Finds alternatives b := by
          rw [quiet_counterpart (compareResolved p .reply field · b) (.notInVariant field b.name)]
          refine exists_congr fun found => and_congr_right fun counter => ?_
          exact compareResolved_quiet (oldLeaves found (List.mem_of_find?_eq_some counter)) newLeaf
        exact answered.trans widens_joined.symm

theorem compareRefs_flat {old new : ResolvedRef} (leaves : Leaves old) (s t : StructDef) :
    Finding.descend s t ∉ compareRefs p d field old new := by
  intro member
  have struct := leaves _ (descend_compareRefs.mp member).targets.1
  cases struct

theorem check_types_exact {old new : ResolvedRef} (oldLeaves : Leaves old)
    (newLeaves : Leaves new) :
    (walk p d l (compareRefs p d field old new)).found = l.found ↔
      Widens (d.writer old new) (d.reader old new) :=
  (walk_flat (compareRefs_flat oldLeaves)).trans (compareRefs_quiet oldLeaves newLeaves)

-- The two ledgers, pairings and field names may differ: none of them decides.
theorem checks_dual {q : Pairing} {m : Ledger} {other : String} {old new : ResolvedRef}
    (oldLeaves : Leaves old) (newLeaves : Leaves new) :
    (walk p .parameter l (compareRefs p .parameter field old new)).found = l.found ↔
      (walk q .reply m (compareRefs q .reply other new old)).found = m.found := by
  rw [check_types_exact oldLeaves newLeaves, check_types_exact newLeaves oldLeaves]
  rfl

end

def paper (sizes : List String) : Resolved :=
  .enum { location := Schema.builtinLocation, name := "paper", type := "string"
          values := sizes.map fun size => ⟨Schema.builtinLocation, size, size⟩ }

def printing : Pairing :=
  alone "print" "print.idl"

-- One size of paper, and later several or a length. A reply may go the way back.
theorem checks_dual_paper :
    Leaves (.single (paper ["a4"])) ∧
      Leaves (.variant [.type (Schema.builtinType "int" "i32" "int"), paper ["a3", "a4"]]) ∧
      (walk printing .reply {} (compareRefs printing .reply "paper"
        (.variant [.type (Schema.builtinType "int" "i32" "int"), paper ["a3", "a4"]])
        (.single (paper ["a4"])))).found = [] := by
  have before : Leaves (.single (paper ["a4"])) := by
    intro a member
    cases List.mem_singleton.mp member
    exact .enum
  have after :
      Leaves (.variant [.type (Schema.builtinType "int" "i32" "int"), paper ["a3", "a4"]]) := by
    intro a member
    simp only [targets, List.mem_cons, List.not_mem_nil, or_false] at member
    rcases member with rfl | rfl
    · exact .type rfl
    · exact .enum
  have silent : (walk printing .parameter {} (compareRefs printing .parameter "paper"
      (.single (paper ["a4"]))
      (.variant [.type (Schema.builtinType "int" "i32" "int"), paper ["a3", "a4"]]))).found =
        ({} : Ledger).found := by
    have nothing : compareRefs printing .parameter "paper" (.single (paper ["a4"]))
        (.variant [.type (Schema.builtinType "int" "i32" "int"), paper ["a3", "a4"]]) = [] := rfl
    rw [nothing, walk]
  exact ⟨before, after, (checks_dual before after).mp silent⟩

end WireSchema.Evolution
