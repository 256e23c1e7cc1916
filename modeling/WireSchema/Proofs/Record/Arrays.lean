import Mathlib.Data.Nat.Digits.Defs
import Mathlib.Tactic.Ring
import WireSchema.Proofs.Record.Reading

namespace WireSchema.Bson

def push (array : Document) (value : Value) : Document :=
  array.append (toString array.length) value

def built (values : List Value) : Document :=
  values.foldl push []

theorem built_keyedFrom (values : List Value) : built values = keyedFrom 0 values := by
  have general (array : Document) :
      values.foldl push array = array ++ keyedFrom array.length values := by
    induction values generalizing array with
    | nil => simp [keyedFrom]
    | cons value rest ih =>
      rw [List.foldl_cons, ih, keyedFrom, push, Document.append, List.append_assoc,
        List.length_append]
      rfl
  exact general []

theorem ofItems_built (values : List Value) : Value.ofItems values = .array (built values) :=
  congrArg Value.array (built_keyedFrom values).symm

end WireSchema.Bson

namespace WireSchema.Record

open Bson (Document Value keyedFrom)

-- Leading zeros in a key do not matter, and a position has to fit into thirty-two bits. The key of
-- an element is looked at before its value.

def Spells (text : String) (n : Nat) : Prop :=
  ∃ digits : List Nat, digits ≠ [] ∧ (∀ digit ∈ digits, digit < 10) ∧
    text.toList = digits.map Nat.digitChar ∧ Nat.ofDigits 10 digits.reverse = n

section

variable {digits : List Nat} {text : String} {n : Nat}

theorem digitChar_of_isDigit {c : Char} (plain : c.isDigit = true) :
    c.toNat - 48 < 10 ∧ Nat.digitChar (c.toNat - 48) = c := by
  have bounds : 48 ≤ c.toNat ∧ c.toNat ≤ 57 := Char.isDigit_iff_toNat.mp plain
  have small : c.toNat - 48 < 10 := by omega
  refine ⟨small, ?_⟩
  apply Char.toNat_inj.mp
  rw [Nat.toNat_digitChar_of_lt_ten small]
  omega

theorem all_isDigit {chars : List Char} : chars.all (·.isDigit) = true ↔
    ∃ digits : List Nat, (∀ digit ∈ digits, digit < 10) ∧ chars = digits.map Nat.digitChar := by
  rw [List.all_eq_true]
  constructor
  · intro plain
    refine ⟨chars.map fun c => c.toNat - 48, ?_, ?_⟩
    · rw [List.forall_mem_map]
      exact fun c member => (digitChar_of_isDigit (plain c member)).1
    · rw [List.map_map]
      have same : ∀ c ∈ chars, Nat.digitChar (c.toNat - 48) = c :=
        fun c member => (digitChar_of_isDigit (plain c member)).2
      exact ((List.map_congr_left same).trans (List.map_id chars)).symm
  · rintro ⟨digits, small, rfl⟩
    rw [List.forall_mem_map]
    intro digit member
    simpa using small digit member

-- What was read before the digits is shifted by them.
theorem foldl_digits (small : ∀ digit ∈ digits, digit < 10) (start : Nat) :
    (digits.map Nat.digitChar).foldl (fun n c => 10 * n + (c.toNat - 48)) start =
      start * 10 ^ digits.length + Nat.ofDigits 10 digits.reverse := by
  induction digits generalizing start with
  | nil => simp
  | cons digit rest ih =>
    obtain ⟨first, others⟩ := List.forall_mem_cons.mp small
    have value : (Nat.digitChar digit).toNat - 48 = digit := by
      rw [Nat.toNat_digitChar_of_lt_ten first]
      omega
    rw [List.map_cons, List.foldl_cons, ih others, value, List.reverse_cons, Nat.ofDigits_append,
      Nat.ofDigits_singleton, List.length_reverse, List.length_cons, pow_succ]
    ring

theorem natural?_exact : Integer.natural? text.toList = some n ↔ Spells text n := by
  unfold Integer.natural?
  constructor
  · intro read
    split at read
    · rename_i plain
      obtain ⟨filled, plain⟩ := Bool.and_eq_true_iff.mp plain
      obtain ⟨digits, small, spelled⟩ := all_isDigit.mp plain
      refine ⟨digits, ?_, small, spelled, ?_⟩
      · rintro rfl
        simp [spelled] at filled
      · rw [spelled, foldl_digits small, zero_mul, zero_add] at read
        exact Option.some.inj read
    · cases read
  · rintro ⟨digits, filled, small, spelled, rfl⟩
    have plain := all_isDigit.mpr ⟨digits, small, spelled⟩
    rw [plain, spelled, foldl_digits small, zero_mul, zero_add]
    simp [filled]

theorem arrayPosition?_exact : arrayPosition? text = some n ↔ Spells text n ∧ n < 2 ^ 32 := by
  unfold arrayPosition?
  rw [Option.filter_eq_some_iff, natural?_exact]
  simp

theorem arrayPosition?_none : arrayPosition? text = none ↔ ∀ n, Spells text n → 2 ^ 32 ≤ n := by
  simp only [Option.eq_none_iff_forall_ne_some, ne_eq, arrayPosition?_exact, not_and, Nat.not_lt]

end

def Counted (position : Nat) (keys : List String) : Prop :=
  ∀ entry ∈ keys.zipIdx position, Spells entry.1 entry.2

inductive Offends {α : Type} (item : Context → String → Value → Except Fault α) (c : Context)
    (position : Nat) : String × Value → Fault → Prop where
  | unnumbered {key : String} {value : Value} (beyond : ∀ n, Spells key n → 2 ^ 32 ≤ n) :
      Offends item c position (key, value) (.arrayKey c.path key)
  | misplaced {key : String} {value : Value} {actual : Nat} (spells : Spells key actual)
      (small : actual < 2 ^ 32) (differs : actual ≠ position) :
      Offends item c position (key, value) (.arrayOrder c.path actual position)
  | undecodable {key : String} {value : Value} {e : Fault} (spells : Spells key position)
      (fails : item c key value = .error e) : Offends item c position (key, value) e

section

variable {α : Type} {item : Context → String → Value → Except Fault α} {c : Context}
  {position : Nat} {element : String × Value} {rest d : Document} {e : Fault}

theorem counted_nil : Counted position [] := by
  simp [Counted]

theorem counted_cons {key : String} {keys : List String} :
    Counted position (key :: keys) ↔ Spells key position ∧ Counted (position + 1) keys := by
  unfold Counted
  rw [List.zipIdx_cons, List.forall_mem_cons]

theorem readItem_spelled (small : position < 2 ^ 32) {a : α} :
    readItem item c position element = .ok a ↔
      Spells element.1 position ∧ item c element.1 element.2 = .ok a := by
  rw [readItem_ok_exact, arrayPosition?_exact, and_iff_left small]

theorem readItem_error_exact (small : position < 2 ^ 32) :
    readItem item c position element = .error e ↔ Offends item c position element e := by
  obtain ⟨key, value⟩ := element
  unfold readItem
  constructor
  · intro failed
    split at failed
    · rename_i unread
      cases failed
      exact .unnumbered (arrayPosition?_none.mp unread)
    · rename_i actual counts
      obtain ⟨spells, fits⟩ := arrayPosition?_exact.mp counts
      split at failed
      · rename_i same
        exact .undecodable (same ▸ spells) failed
      · rename_i differs
        cases failed
        exact .misplaced spells fits differs
  · intro offends
    cases offends with
    | unnumbered beyond =>
      rw [arrayPosition?_none.mpr beyond]
      rfl
    | misplaced spells fits differs =>
      simp only [arrayPosition?_exact.mpr ⟨spells, fits⟩, if_neg differs]
      rfl
    | undecodable spells fails =>
      simp only [arrayPosition?_exact.mpr ⟨spells, small⟩, if_true, fails]

theorem readItems_ok_exact {items : List α} (small : position + d.length ≤ 2 ^ 32) :
    readItems c item position d = .ok items ↔ Counted position (Document.names d) ∧
      d.map (fun element => item c element.1 element.2) = items.map .ok := by
  induction d generalizing position items with
  | nil => simp [readItems, Document.names, counted_nil, eq_comm]
  | cons element rest ih =>
    rw [List.length_cons] at small
    have here : position < 2 ^ 32 := by omega
    have names : Document.names (element :: rest) = element.1 :: Document.names rest := rfl
    rw [readItems_cons, bind_ok_exact, names, counted_cons, List.map_cons]
    constructor
    · rintro ⟨a, first, read⟩
      obtain ⟨others, later, read⟩ := bind_ok_exact.mp read
      cases read
      obtain ⟨spells, decoded⟩ := (readItem_spelled here).mp first
      obtain ⟨counted, each⟩ := (ih (by omega)).mp later
      exact ⟨⟨spells, counted⟩, by rw [decoded, each, List.map_cons]⟩
    · rintro ⟨⟨spells, counted⟩, each⟩
      cases items with
      | nil => cases each
      | cons a others =>
        rw [List.map_cons, List.cons.injEq] at each
        refine ⟨a, (readItem_spelled here).mpr ⟨spells, each.1⟩, ?_⟩
        exact bind_ok_exact.mpr ⟨others, (ih (by omega)).mpr ⟨counted, each.2⟩, rfl⟩

theorem readItems_error_exact (small : position + d.length ≤ 2 ^ 32) :
    readItems c item position d = .error e ↔ ∃ before element after,
      d = before ++ element :: after ∧ Counted position (Document.names before) ∧
        (∀ other ∈ before, Succeeds (item c other.1 other.2)) ∧
        Offends item c (position + before.length) element e := by
  induction d generalizing position with
  | nil => simp [readItems]
  | cons first rest ih =>
    rw [List.length_cons] at small
    have here : position < 2 ^ 32 := by omega
    rw [readItems_cons, bind_error_exact]
    constructor
    · rintro (failed | ⟨a, read, failed⟩)
      · exact ⟨[], first, rest, rfl, counted_nil, by simp, (readItem_error_exact here).mp failed⟩
      · have failed := bind_pure_error_exact.mp failed
        obtain ⟨spells, decoded⟩ := (readItem_spelled here).mp read
        obtain ⟨before, element, after, rfl, counted, each, offends⟩ := (ih (by omega)).mp failed
        refine ⟨first :: before, element, after, rfl, counted_cons.mpr ⟨spells, counted⟩, ?_, ?_⟩
        · exact List.forall_mem_cons.mpr ⟨⟨a, decoded⟩, each⟩
        · rwa [List.length_cons, show position + (before.length + 1) =
            position + 1 + before.length by omega]
    · rintro ⟨before, element, after, parts, counted, each, offends⟩
      cases before with
      | nil =>
        cases parts
        exact .inl ((readItem_error_exact here).mpr offends)
      | cons b before =>
        cases parts
        obtain ⟨spells, counted⟩ := counted_cons.mp counted
        obtain ⟨⟨a, decoded⟩, each⟩ := List.forall_mem_cons.mp each
        rw [List.length_cons, show position + (before.length + 1) =
          position + 1 + before.length by omega] at offends
        refine .inr ⟨a, (readItem_spelled here).mpr ⟨spells, decoded⟩, ?_⟩
        exact bind_pure_error_exact.mpr
          ((ih (by omega)).mpr ⟨before, element, after, rfl, counted, each, offends⟩)

end

structure CountsUp {α : Type} (item : Context → String → Value → Except Fault α) (c : Context)
    (d : Document) (read : Except Fault (List α)) : Prop where
  accepted : ∀ items, read = .ok items ↔ Counted 0 (Document.names d) ∧
    d.map (fun element => item c element.1 element.2) = items.map .ok
  succeeds : Succeeds read ↔ Counted 0 (Document.names d) ∧
    ∀ element ∈ d, Succeeds (item c element.1 element.2)
  refused : ∀ e, read = .error e ↔ ∃ before element after, d = before ++ element :: after ∧
    Counted 0 (Document.names before) ∧
    (∀ other ∈ before, Succeeds (item c other.1 other.2)) ∧
    Offends item c before.length element e
  built : ∀ values, d = Bson.built values →
    (∀ element ∈ d, Succeeds (item c element.1 element.2)) → Succeeds read

theorem counted_keyedFrom (position : Nat) (values : List Value) :
    Counted position (Document.names (keyedFrom position values)) := by
  induction values generalizing position with
  | nil => exact counted_nil
  | cons value rest ih =>
    have spells : Spells (toString position) position := natural?_exact.mp (natural?_toString position)
    exact counted_cons.mpr ⟨spells, ih (position + 1)⟩

theorem readArray_countsUp {α : Type} (item : Context → String → Value → Except Fault α)
    (c : Context) (name : String) {d : Document} (countable : d.length < 2 ^ 32) :
    CountsUp item (c.child name) d (readArray item c name (.array d)) := by
  have small : 0 + d.length ≤ 2 ^ 32 := by omega
  show CountsUp item (c.child name) d (readItems (c.child name) item 0 d)
  have succeeds : Succeeds (readItems (c.child name) item 0 d) ↔ Counted 0 (Document.names d) ∧
      ∀ element ∈ d, Succeeds (item (c.child name) element.1 element.2) := by
    rw [← succeeds_each, ← exists_and_left]
    exact exists_congr fun _ => readItems_ok_exact small
  refine ⟨fun _ => readItems_ok_exact small, succeeds, fun e => ?_, ?_⟩
  · simpa only [Nat.zero_add] using readItems_error_exact small
  · rintro values rfl each
    refine succeeds.mpr ⟨?_, each⟩
    rw [Bson.built_keyedFrom]
    exact counted_keyedFrom 0 values

end WireSchema.Record
