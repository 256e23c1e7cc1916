import Mathlib.Data.List.Nodup
import WireSchema.Emit.Declaration
import WireSchema.Proofs.Bound.Structs

namespace WireSchema.Emit

open WireSchema.Bound (Field Struct)

def equalityTerm (f : Field) : String :=
  if f.holdsDocuments then s!"self.{f.rustName}.structural_eq(&other.{f.rustName})"
  else s!"self.{f.rustName} == other.{f.rustName}"

def equalityBody (fields : List Field) : String :=
  if fields.isEmpty then "true" else "\n    && ".intercalate (fields.map equalityTerm)

def EqualityOver (s : Struct) (fields : List Field) : Prop :=
  ∃ rest, comparisonOperators s =
    .braces s!"impl PartialEq for {s.rustName}"
      [.braces "fn eq(&self, other: &Self) -> bool" [.line (equalityBody fields)]] :: rest

theorem comparisonOperators_equality (s : Struct) : EqualityOver s s.comparisonFields :=
  ⟨_, rfl⟩

end WireSchema.Emit

namespace WireSchema.Bound

open Emit (EqualityOver storedFields)
open Schema (Report Spec fieldAt lineOf)

-- An order counts as given if any field has one, but only stored fields are compared. Where the
-- orders are given to other fields alone, to ignored or inlined ones, no field is left and all
-- values of the struct are equal.

-- What the generated equality comes to; `same` tells which members two values agree in.
def Struct.equalBy (s : Struct) (same : Field → Bool) : Bool :=
  s.comparisonFields.all same

def Struct.OrdersAstray (s : Struct) : Prop :=
  (∃ f ∈ s.fields, 0 ≤ f.comparisonOrder) ∧ ∀ f ∈ storedFields s, f.comparisonOrder < 0

-- The stored fields that have an order, in that order, or all of them if none has one. Some member
-- is compared if there is one to compare.
structure Struct.ComparesStored (s : Struct) : Prop where
  ordered : (∃ f ∈ storedFields s, 0 ≤ f.comparisonOrder) →
    (∀ f, f ∈ s.comparisonFields ↔ f ∈ storedFields s ∧ 0 ≤ f.comparisonOrder) ∧
      s.comparisonFields.Pairwise fun f g => f.comparisonOrder < g.comparisonOrder
  unordered : (∀ f ∈ storedFields s, f.comparisonOrder < 0) → s.comparisonFields = storedFields s
  tells : storedFields s ≠ [] →
    ∃ f ∈ storedFields s, ∀ same, same f = false → s.equalBy same = false

section

variable {s : Struct}

theorem mem_storedFields {f : Field} :
    f ∈ storedFields s ↔ f ∈ s.fields ∧ f.hasStorage = true := by
  unfold storedFields
  exact List.mem_filter

theorem Struct.WellFormed.stored_nodup (wellFormed : s.WellFormed) : (storedFields s).Nodup := by
  have apart := List.pairwise_filterMap.mp wellFormed.members
  apply List.Pairwise.imp_of_mem ?_ (apart.filter _)
  intro f g here there differ same
  have stored := (mem_storedFields.mp here).2
  simp only [Field.hasStorage, Bool.and_eq_true] at stored
  have named : f.member? = some f.rustName := by
    simp only [Field.member?, stored.2, if_true]
  exact differ f.rustName named f.rustName (same ▸ named) rfl

theorem Struct.WellFormed.orders_apart (wellFormed : s.WellFormed) :
    ((storedFields s).filter (0 ≤ ·.comparisonOrder)).Pairwise
      fun f g => f.comparisonOrder ≠ g.comparisonOrder := by
  have apart := List.pairwise_filterMap.mp wellFormed.orders
  apply List.Pairwise.imp_of_mem ?_ ((apart.filter _).filter _)
  intro f g here there differ
  have first : 0 ≤ f.comparisonOrder := by simpa using (List.mem_filter.mp here).2
  have second : 0 ≤ g.comparisonOrder := by simpa using (List.mem_filter.mp there).2
  exact differ _ (by rw [Field.order?, if_pos first]) _ (by rw [Field.order?, if_pos second])

theorem unordered_or_ordered (s : Struct) :
    (∀ f ∈ s.fields, f.comparisonOrder < 0) ∨ ∃ f ∈ s.fields, 0 ≤ f.comparisonOrder := by
  by_cases given : ∃ f ∈ s.fields, 0 ≤ f.comparisonOrder
  · exact .inr given
  · left
    intro f member
    apply Int.not_le.mp
    intro ordered
    exact given ⟨f, member, ordered⟩

theorem comparisonFields_unordered (none : ∀ f ∈ s.fields, f.comparisonOrder < 0) :
    s.comparisonFields = storedFields s := by
  unfold Struct.comparisonFields
  have all : s.fields.all (·.comparisonOrder < 0) = true := by simpa using none
  simp only [all, if_true]
  rfl

theorem comparisonFields_ordered {f : Field} (member : f ∈ s.fields)
    (ordered : 0 ≤ f.comparisonOrder) :
    s.comparisonFields = ((storedFields s).filter (0 ≤ ·.comparisonOrder)).mergeSort
      fun f g => decide (f.comparisonOrder ≤ g.comparisonOrder) := by
  unfold Struct.comparisonFields
  have some : s.fields.all (·.comparisonOrder < 0) = false := by
    apply Bool.eq_false_iff.mpr
    intro all
    have less : f.comparisonOrder < 0 := by simpa using List.all_eq_true.mp all f member
    omega
  simp only [some, Bool.false_eq_true, if_false]
  rfl

theorem mem_comparisonFields_ordered {f g : Field} (member : f ∈ s.fields)
    (ordered : 0 ≤ f.comparisonOrder) :
    g ∈ s.comparisonFields ↔ g ∈ storedFields s ∧ 0 ≤ g.comparisonOrder := by
  rw [comparisonFields_ordered member ordered, List.mem_mergeSort, List.mem_filter,
    decide_eq_true_iff]

-- Sorting leaves no two fields with one order, so that the order is strict.
theorem Struct.WellFormed.strictly_ordered (wellFormed : s.WellFormed) {f : Field}
    (member : f ∈ s.fields) (ordered : 0 ≤ f.comparisonOrder) :
    s.comparisonFields.Pairwise fun g h => g.comparisonOrder < h.comparisonOrder := by
  rw [comparisonFields_ordered member ordered]
  have sorted := @List.pairwise_mergeSort Field
    (fun f g => decide (f.comparisonOrder ≤ g.comparisonOrder))
    (fun a b c ab bc => by simp only [decide_eq_true_iff] at *; omega)
    (fun a b => by simp only [Bool.or_eq_true, decide_eq_true_iff]; omega)
    ((storedFields s).filter (0 ≤ ·.comparisonOrder))
  have apart := (List.Perm.pairwise_iff (fun differ => Ne.symm differ)
    (List.mergeSort_perm ((storedFields s).filter (0 ≤ ·.comparisonOrder))
      fun f g => decide (f.comparisonOrder ≤ g.comparisonOrder))).mpr wellFormed.orders_apart
  apply List.Pairwise.imp₂ ?_ sorted apart
  intro g h atMost differ
  simp only [decide_eq_true_iff] at atMost
  omega

theorem comparisonFields_subset : s.comparisonFields ⊆ storedFields s := by
  intro g there
  rcases unordered_or_ordered s with none | ⟨f, member, ordered⟩
  · rwa [comparisonFields_unordered none] at there
  · exact ((mem_comparisonFields_ordered member ordered).mp there).1

theorem Struct.WellFormed.comparisonFields_nodup (wellFormed : s.WellFormed) :
    s.comparisonFields.Nodup := by
  rcases unordered_or_ordered s with none | ⟨f, member, ordered⟩
  · rw [comparisonFields_unordered none]
    exact wellFormed.stored_nodup
  · rw [comparisonFields_ordered member ordered, (List.mergeSort_perm ..).nodup_iff]
    exact wellFormed.stored_nodup.filter _

theorem Struct.OrdersAstray.nothing (astray : s.OrdersAstray) : s.comparisonFields = [] := by
  obtain ⟨⟨f, member, ordered⟩, unordered⟩ := astray
  apply List.eq_nil_iff_forall_not_mem.mpr
  intro g there
  obtain ⟨stored, given⟩ := (mem_comparisonFields_ordered member ordered).mp there
  have less := unordered g stored
  omega

theorem equalBy_compared {f : Field} (compared : f ∈ s.comparisonFields) {same : Field → Bool}
    (differs : same f = false) : s.equalBy same = false := by
  unfold Struct.equalBy
  apply List.all_eq_false.mpr
  exact ⟨f, compared, by simp [differs]⟩

theorem Struct.WellFormed.comparesStored (wellFormed : s.WellFormed) (placed : ¬s.OrdersAstray) :
    s.ComparesStored := by
  rcases unordered_or_ordered s with none | ⟨f, member, ordered⟩
  · have all := comparisonFields_unordered none
    refine ⟨?_, fun _ => all, ?_⟩
    · rintro ⟨g, stored, given⟩
      have less := none g (mem_storedFields.mp stored).1
      omega
    · intro some
      obtain ⟨g, stored⟩ := List.exists_mem_of_ne_nil _ some
      exact ⟨g, stored, fun _ => equalBy_compared (all ▸ stored)⟩
  · have selected (g : Field) := mem_comparisonFields_ordered (g := g) member ordered
    refine ⟨fun _ => ⟨selected, wellFormed.strictly_ordered member ordered⟩, ?_, ?_⟩
    · intro unordered
      exact absurd ⟨⟨f, member, ordered⟩, unordered⟩ placed
    · intro _
      -- The orders are not astray, so one of them is given to a stored field.
      obtain ⟨g, stored, given⟩ : ∃ g ∈ storedFields s, 0 ≤ g.comparisonOrder := by
        by_contra missing
        apply placed
        refine ⟨⟨f, member, ordered⟩, ?_⟩
        intro g stored
        exact Int.not_le.mp fun given => missing ⟨g, stored, given⟩
      exact ⟨g, stored, fun _ => equalBy_compared ((selected g).mpr ⟨stored, given⟩)⟩

theorem Struct.WellFormed.comparesStored_exact (wellFormed : s.WellFormed) :
    s.ComparesStored ↔ (s.OrdersAstray → storedFields s = []) := by
  constructor
  · intro compares astray
    rw [← compares.unordered astray.2]
    exact astray.nothing
  · intro empty
    by_cases astray : s.OrdersAstray
    · have nothing := empty astray
      have compared : s.comparisonFields = storedFields s := astray.nothing.trans nothing.symm
      refine ⟨?_, fun _ => compared, fun some => absurd nothing some⟩
      rintro ⟨f, stored, _⟩
      rw [nothing] at stored
      cases stored
    · exact wellFormed.comparesStored astray

end

-- A comparison looks at stored fields, and at each of them once. They are the ones that it should
-- look at unless the orders went astray; then it looks at none, and finds all values equal.
theorem comparison_exact {spec : Spec} {idl : Idl} (bound : bind spec = .ok idl) {s : Struct}
    (member : s ∈ idl.structs) :
    EqualityOver s s.comparisonFields ∧ s.comparisonFields.Nodup ∧
      s.comparisonFields ⊆ storedFields s ∧
      (s.ComparesStored ↔ (s.OrdersAstray → storedFields s = [])) ∧
      (s.OrdersAstray → s.comparisonFields = [] ∧ ∀ same, s.equalBy same = true) := by
  obtain ⟨_, _, structs⟩ := bind_parts bound
  have wellFormed := (structs s member).wellFormed
  refine ⟨Emit.comparisonOperators_equality s, wellFormed.comparisonFields_nodup,
    comparisonFields_subset, wellFormed.comparesStored_exact, ?_⟩
  intro astray
  refine ⟨astray.nothing, ?_⟩
  intro same
  simp only [Struct.equalBy, astray.nothing, List.all_nil]

section

-- A ticket is compared by its place; `order` is the place of the row in a comparison.
def ticketWith (order : Int) : Spec :=
  { symbols := { structs := [
      { location := lineOf "ticket.idl" 1, name := "ticket", comparable := true
        fields := [
          { fieldAt (lineOf "ticket.idl" 2) "seat" "int" with comparisonOrder := order + 1 },
          { fieldAt (lineOf "ticket.idl" 3) "row" "int" with comparisonOrder := order },
          fieldAt (lineOf "ticket.idl" 4) "price" "int",
          { fieldAt (lineOf "ticket.idl" 5) "stub" "int" with
            ignore := true
            comparisonOrder := 7 }] }] } }

def ordered (name : String) (order : Int) : Field :=
  { intField name name with comparisonOrder := order }

def boundTicket (order : Int) : Struct :=
  { boundStruct "ticket" "Ticket" [
      ordered "seat" (order + 1), ordered "row" order, intField "price" "price",
      { ordered "stub" 7 with ignore := true }] with
    comparable := true }

theorem comparison_exact_ticket :
    ∃ idl, bind (ticketWith 3) = .ok idl ∧ idl.structs = [boundTicket 3] ∧
      (∀ f, f ∈ (boundTicket 3).comparisonFields ↔
        f ∈ storedFields (boundTicket 3) ∧ 0 ≤ f.comparisonOrder) ∧
      (boundTicket 3).comparisonFields.Pairwise fun f g =>
        f.comparisonOrder < g.comparisonOrder := by
  have bound : bind (ticketWith 3) = .ok (bindAll (ticketWith 3)).value :=
    Report.toExcept_of_clean (by decide +kernel)
  have structs : (bindAll (ticketWith 3)).value.structs = [boundTicket 3] := by decide +kernel
  have member : boundTicket 3 ∈ (bindAll (ticketWith 3)).value.structs := by
    rw [structs]
    exact List.mem_singleton_self _
  have seat : ordered "seat" 4 ∈ storedFields (boundTicket 3) := by decide +kernel
  obtain ⟨_, _, _, compares, _⟩ := comparison_exact bound member
  have placed : ¬(boundTicket 3).OrdersAstray := by
    intro astray
    exact absurd (astray.2 _ seat) (by decide)
  have stored := compares.mpr fun astray => absurd astray placed
  exact ⟨_, bound, structs, stored.ordered ⟨_, seat, by decide⟩⟩

-- Only the ignored stub has an order, and with it no tickets differ.
theorem orders_astray_unnoticed :
    ∃ idl, bind (ticketWith (-2)) = .ok idl ∧ idl.structs = [boundTicket (-2)] ∧
      (storedFields (boundTicket (-2))).map (·.rustName) = ["seat", "row", "price"] ∧
      (boundTicket (-2)).comparisonFields = [] ∧
      EqualityOver (boundTicket (-2)) [] ∧ ∀ same, (boundTicket (-2)).equalBy same = true := by
  have bound : bind (ticketWith (-2)) = .ok (bindAll (ticketWith (-2))).value :=
    Report.toExcept_of_clean (by decide +kernel)
  have astray : (boundTicket (-2)).OrdersAstray := by
    unfold Struct.OrdersAstray
    decide +kernel
  have nothing := astray.nothing
  refine ⟨_, bound, by decide +kernel, by decide +kernel, nothing, ?_, ?_⟩
  · rw [← nothing]
    exact Emit.comparisonOperators_equality _
  · intro same
    simp only [Struct.equalBy, nothing, List.all_nil]

end

end WireSchema.Bound
