import Mathlib.Data.List.Forall2
import Mathlib.Data.List.Lex
import Mathlib.Data.Prod.Lex
import WireSchema.Record.Structural

namespace WireSchema.Record

structure Lawful {α : Type} (order : α → α → Ordering) (same : α → α → Bool) : Prop where
  reflexive : ∀ a, order a a = .eq
  swapped : ∀ a b, order b a = (order a b).swap
  transitive : ∀ a b c, (order a b).isLE → (order b c).isLE → (order a c).isLE
  strictly : ∀ a b c, order a b = .lt → order b c = .lt → order a c = .lt
  agrees : ∀ a b, same a b = true ↔ order a b = .eq

section

variable {α : Type} {order : α → α → Ordering} {same : α → α → Bool}

theorem Lawful.of_trans [Std.TransCmp order] (agrees : ∀ a b, same a b = true ↔ order a b = .eq) :
    Lawful order same where
  reflexive _ := Std.ReflCmp.compare_self
  swapped _ _ := Std.OrientedCmp.eq_swap
  transitive _ _ _ := Std.TransCmp.isLE_trans
  strictly _ _ _ := Std.TransCmp.lt_trans
  agrees := agrees

theorem Lawful.trans (lawful : Lawful order same) : Std.TransCmp order where
  eq_swap := lawful.swapped _ _
  isLE_trans := lawful.transitive _ _ _

theorem Lawful.on {β : Type} (lawful : Lawful order same) (part : β → α) :
    Lawful (fun a b => order (part a) (part b)) fun a b => same (part a) (part b) where
  reflexive _ := lawful.reflexive _
  swapped _ _ := lawful.swapped _ _
  transitive _ _ _ := lawful.transitive _ _ _
  strictly _ _ _ := lawful.strictly _ _ _
  agrees _ _ := lawful.agrees _ _

theorem orderLists_compareLex : orderLists order = List.compareLex order := by
  funext as bs
  induction as generalizing bs with
  | nil => cases bs <;> rfl
  | cons a as ih =>
    cases bs with
    | nil => rfl
    | cons b bs => rw [orderLists, ih, List.compareLex_cons_cons]

instance [Std.TransCmp order] : Std.TransCmp (orderLists order) := by
  rw [orderLists_compareLex]
  infer_instance

-- To go through the pairs and to compare the lengths then is to go through both lists at once.
theorem orderItems_orderLists : orderItems order = orderLists order := by
  funext as bs
  induction as generalizing bs with
  | nil => cases bs <;> rfl
  | cons a as ih =>
    cases bs with
    | nil => rfl
    | cons b bs =>
      have lengths : compare (as.length + 1) (bs.length + 1) = compare as.length bs.length := by
        simp [Nat.compare_eq_ite_lt]
      show (order a b).then ((as.zip bs).foldr _ (compare (as.length + 1) (bs.length + 1))) = _
      rw [lengths, orderLists, ← ih]
      rfl

theorem orderLists_eq {as bs : List α} :
    orderLists order as bs = .eq ↔ List.Forall₂ (order · · = .eq) as bs := by
  induction as generalizing bs with
  | nil => cases bs <;> simp [orderLists]
  | cons a as ih =>
    cases bs with
    | nil => simp [orderLists]
    | cons b bs => rw [orderLists, Ordering.then_eq_eq, ih, List.forall₂_cons]

theorem sameLists_exact {as bs : List α} :
    sameLists same as bs = true ↔ List.Forall₂ (same · · = true) as bs := by
  rw [List.forall₂_iff_zip]
  simp [sameLists]

theorem sameLists_eq {as bs : List α} (each : ∀ a ∈ as, ∀ b ∈ bs, (same a b = true ↔ a = b)) :
    sameLists same as bs = true ↔ as = bs := by
  rw [sameLists_exact]
  induction as generalizing bs with
  | nil => cases bs <;> simp
  | cons a as ih =>
    cases bs with
    | nil => simp
    | cons b bs =>
      have first := each a List.mem_cons_self b List.mem_cons_self
      have others := ih fun x there y here =>
        each x (List.mem_cons_of_mem _ there) y (List.mem_cons_of_mem _ here)
      rw [List.forall₂_cons, first, others, List.cons.injEq]

theorem sameOptions_eq {a b : Option α} (each : ∀ x ∈ a, ∀ y ∈ b, (same x y = true ↔ x = y)) :
    sameOptions same a b = true ↔ a = b := by
  cases a <;> cases b
  case some.some x y => simpa [sameOptions] using each x rfl y rfl
  all_goals simp [sameOptions]

theorem Lawful.lists (lawful : Lawful order same) :
    Lawful (orderLists order) (sameLists same) := by
  have := lawful.trans
  apply Lawful.of_trans
  intro as bs
  rw [sameLists_exact, orderLists_eq]
  simp only [lawful.agrees]

theorem Lawful.list_before (lawful : Lawful order same) (as : List α) (b : α) (bs : List α) :
    orderLists order as (as ++ b :: bs) = .lt := by
  induction as with
  | nil => rfl
  | cons a as ih =>
    rw [List.cons_append, orderLists, lawful.reflexive, ih]
    rfl

theorem Lawful.options (lawful : Lawful order same) :
    Lawful (orderOptions order) (sameOptions same) where
  reflexive a := by
    cases a with
    | none => rfl
    | some a => exact lawful.reflexive a
  swapped a b := by
    cases a <;> cases b
    case some.some a b => exact lawful.swapped a b
    all_goals rfl
  transitive a b c := by
    cases a <;> cases b <;> cases c
    case some.some.some a b c => exact lawful.transitive a b c
    all_goals simp [orderOptions]
  strictly a b c := by
    cases a <;> cases b <;> cases c
    case some.some.some a b c => exact lawful.strictly a b c
    all_goals simp [orderOptions]
  agrees a b := by
    cases a <;> cases b
    case some.some a b => exact lawful.agrees a b
    all_goals simp [orderOptions, sameOptions]

end

structure GoesBy {α κ : Type} [LinearOrder κ] (order : α → α → Ordering) (key : α → κ) : Prop where
  below : ∀ a b, order a b = .lt ↔ key a < key b
  level : ∀ a b, order a b = .eq ↔ key a = key b

namespace GoesBy

variable {α κ μ : Type} [LinearOrder κ] [LinearOrder μ] {order other : α → α → Ordering}
  {same : α → α → Bool} {key : α → κ} {second : α → μ}

theorem above (by_key : GoesBy order key) (a b : α) : order a b = .gt ↔ key b < key a := by
  have below := by_key.below a b
  have level := by_key.level a b
  rw [← not_le, le_iff_lt_or_eq, ← below, ← level]
  cases order a b <;> simp

theorem atMost (by_key : GoesBy order key) (a b : α) : (order a b).isLE ↔ key a ≤ key b := by
  rw [Ordering.isLE_iff_ne_gt, by_key.above, not_lt]

theorem lawful (by_key : GoesBy order key) (agrees : ∀ a b, same a b = true ↔ key a = key b) :
    Lawful order same where
  reflexive a := (by_key.level a a).mpr rfl
  swapped a b := by
    rcases lt_trichotomy (key a) (key b) with below | level | above
    · rw [(by_key.below a b).mpr below, (by_key.above b a).mpr below]
      rfl
    · rw [(by_key.level a b).mpr level, (by_key.level b a).mpr level.symm]
      rfl
    · rw [(by_key.above a b).mpr above, (by_key.below b a).mpr above]
      rfl
  transitive a b c := by
    simp only [by_key.atMost]
    exact le_trans
  strictly a b c := by
    simp only [by_key.below]
    exact lt_trans
  agrees a b := by rw [agrees, by_key.level]

theorem pair (by_key : GoesBy order key) (by_second : GoesBy other second) :
    GoesBy (fun a b => (order a b).then (other a b)) fun a => toLex (key a, second a) where
  below a b := by
    rw [Ordering.then_eq_lt, by_key.below, by_key.level, by_second.below, Prod.Lex.toLex_lt_toLex]
  level a b := by
    rw [Ordering.then_eq_eq, by_key.level, by_second.level, toLex_inj, Prod.mk.injEq]

theorem on {β : Type} (by_key : GoesBy order key) (part : β → α) :
    GoesBy (fun a b => order (part a) (part b)) fun a => key (part a) where
  below _ _ := by_key.below _ _
  level _ _ := by_key.level _ _

theorem lists (by_key : GoesBy order key) : GoesBy (orderLists order) (List.map key) where
  below as bs := by
    induction as generalizing bs with
    | nil => cases bs <;> simp [orderLists]
    | cons a as ih =>
      cases bs with
      | nil => simp [orderLists]
      | cons b bs =>
        rw [orderLists, Ordering.then_eq_lt, by_key.below, by_key.level, ih, List.map_cons,
          List.map_cons, List.cons_lt_cons_iff]
  level as bs := by
    rw [orderLists_eq, ← List.forall₂_eq_eq_eq, List.forall₂_map_left_iff,
      List.forall₂_map_right_iff]
    simp only [by_key.level]

end GoesBy

end WireSchema.Record
