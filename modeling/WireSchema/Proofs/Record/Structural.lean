import WireSchema.Proofs.Bson.RoundTrip
import WireSchema.Proofs.Record.Ordered

namespace WireSchema.Record

open Bson (Document)

theorem bytes_lawful : Lawful (orderLists compare) fun as bs : List UInt8 => as == bs := by
  apply Lawful.of_trans
  intro as bs
  rw [beq_iff_eq, orderLists_eq]
  simp only [Std.LawfulEqCmp.compare_eq_iff_eq, List.forall₂_eq_eq_eq]

inductive Nest where
  | document
  | option (inner : Nest)
  | list (inner : Nest)

namespace Nest

def Carrier : Nest → Type
  | document => Document
  | option n => Option n.Carrier
  | list n => List n.Carrier

instance structural : (n : Nest) → Structural n.Carrier
  | document => inferInstanceAs (Structural Document)
  | option n =>
    let := n.structural
    inferInstanceAs (Structural (Option n.Carrier))
  | list n =>
    let := n.structural
    inferInstanceAs (Structural (List n.Carrier))

def order (n : Nest) : n.Carrier → n.Carrier → Ordering :=
  n.structural.order

def same (n : Nest) : n.Carrier → n.Carrier → Bool :=
  n.structural.same

def Writable : (n : Nest) → n.Carrier → Prop
  | document => fun d => Document.Writable d
  | option n => fun a : Option n.Carrier => ∀ b ∈ a, n.Writable b
  | list n => fun as : List n.Carrier => ∀ a ∈ as, n.Writable a

theorem lawful (n : Nest) : Lawful n.order n.same := by
  induction n with
  | document => exact bytes_lawful.on Document.encode
  | option n ih => exact ih.options
  | list n ih =>
    show Lawful (orderItems n.order) (sameLists n.same)
    rw [orderItems_orderLists]
    exact ih.lists

theorem same_exact (n : Nest) {a b : n.Carrier} (one : n.Writable a) (other : n.Writable b) :
    n.same a b = true ↔ a = b := by
  induction n with
  | document => exact beq_iff_eq.trans (Document.encode_inj one other)
  | option n ih => exact sameOptions_eq fun x there y here => ih (one x there) (other y here)
  | list n ih => exact sameLists_eq fun x there y here => ih (one x there) (other y here)

end Nest

-- What is asked of the documents is needed for the last part alone.
theorem structural_order_exact (n : Nest) :
    Lawful n.order n.same ∧
    (∀ b : n.Carrier, n.option.order none (some b) = .lt) ∧
    (∀ (as : List n.Carrier) (b : n.Carrier) (bs : List n.Carrier),
      n.list.order as (as ++ b :: bs) = .lt) ∧
    ∀ a b : n.Carrier, n.Writable a → n.Writable b → (n.same a b = true ↔ a = b) := by
  refine ⟨n.lawful, fun _ => rfl, fun as b bs => ?_, fun _ _ => n.same_exact⟩
  show orderItems n.order as (as ++ b :: bs) = .lt
  rw [orderItems_orderLists]
  exact n.lawful.list_before as b bs

def zero (bits : UInt64) : Document := [("zero", .double ⟨bits⟩)]

theorem zero_writable (bits : UInt64) : (zero bits).Writable := by
  have size : (zero bits).encode.length = 19 := rfl
  refine ⟨⟨by decide, trivial, trivial⟩, ?_⟩
  rw [size]
  decide

def zeros (bits : UInt64) : Nest.Carrier (.list (.option .document)) := [none, some (zero bits)]

-- Both zeros are one number, but one of their bits differs.
theorem structural_order_exact_zeros :
    (zero 0).numEq (zero 0x8000000000000000) = true ∧
      Nest.same (.list (.option .document)) (zeros 0) (zeros 0x8000000000000000) = false := by
  have writable (bits : UInt64) : Nest.Writable (.list (.option .document)) (zeros bits) := by
    intro a there d inside
    rcases List.mem_pair.mp there with rfl | rfl
    · cases inside
    · cases inside
      exact zero_writable bits
  obtain ⟨-, -, -, apart⟩ := structural_order_exact (.list (.option .document))
  refine ⟨by rfl, ?_⟩
  rw [← Bool.not_eq_true, apart _ _ (writable _) (writable _)]
  show ¬([none, some (zero 0)] : List (Option Document)) = [none, some (zero 0x8000000000000000)]
  simp [zero]

end WireSchema.Record
