import Mathlib.Algebra.Order.Ring.Int
import Mathlib.Data.String.Basic
import WireSchema.Canvas.Shape
import WireSchema.Proofs.Record.Ordered

namespace WireSchema.Record

-- The first comparison that does not say that its two values are level decides, with or without an
-- answer.
def firstDecided : List (Option Ordering) → Option Ordering
  | [] => some .eq
  | some .eq :: rest => firstDecided rest
  | decided :: _ => decided

def partialLists {α : Type} (partialOrder : α → α → Option Ordering) :
    List α → List α → Option Ordering
  | [], [] => some .eq
  | [], _ :: _ => some .lt
  | _ :: _, [] => some .gt
  | a :: as, b :: bs => firstDecided [partialOrder a b, partialLists partialOrder as bs]

theorem firstDecided_some (orders : List Ordering) :
    firstDecided (orders.map some) = some (orders.foldr Ordering.then .eq) := by
  induction orders with
  | nil => rfl
  | cons o rest ih => cases o <;> first | rfl | exact ih

theorem partialLists_some {α : Type} {partialOrder : α → α → Option Ordering}
    {order : α → α → Ordering} (total : ∀ a b, partialOrder a b = some (order a b))
    (as bs : List α) : partialLists partialOrder as bs = some (orderLists order as bs) := by
  induction as generalizing bs with
  | nil => cases bs <;> rfl
  | cons a as ih =>
    cases bs with
    | nil => rfl
    | cons b bs =>
      rw [partialLists, total, ih, orderLists]
      exact (firstDecided_some [_, _]).trans (by simp)

theorem GoesBy.compare {α κ : Type} [LinearOrder κ] (key : α → κ) :
    GoesBy (fun a b => compare (key a) (key b)) key where
  below _ _ := compare_lt_iff_lt
  level _ _ := compare_eq_iff_eq

end WireSchema.Record

namespace WireSchema.Canvas

open Record

-- The comparison looks at one member after the other and would pass on that two of them have no
-- order, but all of them have one.

namespace Point

def partialOrder (p q : Point) : Option Ordering :=
  firstDecided [some (compare p.x.value.toInt q.x.value.toInt),
    some (compare p.y.value.toInt q.y.value.toInt)]

def place (p : Point) : ℤ ×ₗ ℤ :=
  toLex (p.x.value.toInt, p.y.value.toInt)

theorem partialOrder_total (p q : Point) : p.partialOrder q = some (p.order q) :=
  (firstDecided_some [_, _]).trans (by simp [order])

theorem order_goesBy : GoesBy order place :=
  .pair (.compare fun p : Point => p.x.value.toInt) (.compare fun p : Point => p.y.value.toInt)

theorem same_exact (p q : Point) : p.same q = true ↔ p.place = q.place := by
  simp [same, place, Int32.toInt_inj]

end Point

theorem ShapeKind.rank_inj {k l : ShapeKind} : k.rank = l.rank ↔ k = l := by
  cases k <;> cases l <;> simp [rank]

namespace Shape

def partialOrder (s t : Shape) : Option Ordering :=
  firstDecided [some (compare s.name.value t.name.value), some (s.kind.value.order t.kind.value),
    partialLists Point.partialOrder s.points.value t.points.value,
    some (compare s.sides.toInt t.sides.toInt)]

-- By name, then by kind as the kinds are declared, then by the points one after the other, then by
-- the number of sides.
def standing (s : Shape) : String ×ₗ ℕ ×ₗ List (ℤ ×ₗ ℤ) ×ₗ ℤ :=
  toLex (s.name.value, toLex (s.kind.value.rank,
    toLex (s.points.value.map Point.place, s.sides.toInt)))

def unlabelled (s : Shape) : Shape :=
  s.modifyPoints (List.map (·.setLabel none))

theorem partialOrder_total (s t : Shape) : s.partialOrder t = some (s.order t) := by
  unfold partialOrder
  rw [partialLists_some Point.partialOrder_total]
  exact (firstDecided_some [_, _, _, _]).trans (by simp [order])

theorem order_goesBy : GoesBy order standing :=
  .pair (.compare fun s : Shape => s.name.value) <|
    .pair (.compare fun s : Shape => s.kind.value.rank) <|
    .pair (Point.order_goesBy.lists.on fun s : Shape => s.points.value)
      (.compare fun s : Shape => s.sides.toInt)

theorem same_exact (s t : Shape) : s.same t = true ↔ s.standing = t.standing := by
  have points : sameLists Point.same s.points.value t.points.value = true ↔
      s.points.value.map Point.place = t.points.value.map Point.place := by
    rw [sameLists_exact, ← List.forall₂_eq_eq_eq, List.forall₂_map_left_iff,
      List.forall₂_map_right_iff]
    simp only [Point.same_exact]
  show (_ && _ && sameLists Point.same s.points.value t.points.value && _) = true ↔ _
  simp only [Bool.and_eq_true, beq_iff_eq, points, standing, toLex_inj, Prod.mk.injEq, and_assoc,
    Int32.toInt_inj, ShapeKind.rank_inj]

theorem standing_unlabelled (s : Shape) : s.unlabelled.standing = s.standing := by
  have places : s.unlabelled.points.value.map Point.place = s.points.value.map Point.place := by
    show (s.points.value.map _).map _ = _
    rw [List.map_map]
    rfl
  unfold standing
  rw [places]
  rfl

end Shape

theorem comparisons_lawful :
    (Lawful Point.order Point.same ∧ GoesBy Point.order Point.place ∧
      ∀ p q, Point.partialOrder p q = some (p.order q)) ∧
    (Lawful Shape.order Shape.same ∧ GoesBy Shape.order Shape.standing ∧
      ∀ s t, Shape.partialOrder s t = some (s.order t)) ∧
    ∀ s t : Shape, s.unlabelled = t.unlabelled → s.same t = true := by
  refine ⟨⟨Point.order_goesBy.lawful Point.same_exact, Point.order_goesBy, Point.partialOrder_total⟩,
    ⟨Shape.order_goesBy.lawful Shape.same_exact, Shape.order_goesBy, Shape.partialOrder_total⟩, ?_⟩
  intro s t relabelled
  rw [Shape.same_exact, ← s.standing_unlabelled, relabelled, t.standing_unlabelled]

def triangle (corner : Option String) : Shape :=
  .withRequired "roof" .polygon
    [(Point.withRequired 0 0).setLabel corner, .withRequired 3 0, .withRequired 0 4]

theorem comparisons_lawful_relabelled :
    triangle none ≠ triangle (some "corner") ∧
      (triangle none).same (triangle (some "corner")) = true := by
  obtain ⟨-, -, apart⟩ := comparisons_lawful
  exact ⟨by decide, apart _ _ rfl⟩

end WireSchema.Canvas
