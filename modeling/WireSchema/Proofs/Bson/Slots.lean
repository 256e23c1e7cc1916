import WireSchema.Proofs.Bson.Items

namespace WireSchema.Bson

open Cursor (place)

-- In the end the bytes are those of a run of items in which each slot is a number that was known
-- from the start, and so they are read back as one.

-- One use of a buffer. The slot that is filled in is the newest of those still open.
inductive Write where
  | item (i : Item)
  | reserve
  | backpatch
deriving DecidableEq

structure Writing where
  sink : Sink
  slots : List Nat

def Writing.start : Writing :=
  ⟨.empty, []⟩

namespace Write

def run (w : Writing) : Write → Option Writing
  | item i => some { w with sink := i.write w.sink }
  | reserve => some ⟨w.sink.reserveLength.2, w.sink.reserveLength.1 :: w.slots⟩
  | backpatch =>
    match w.slots with
    | [] => none
    | slot :: slots => some ⟨w.sink.backpatchLength slot, slots⟩

def runAll (writes : List Write) (w : Writing) : Option Writing :=
  writes.foldlM run w

inductive Nested : List Write → Prop where
  | nil : Nested []
  | item {i : Item} {rest : List Write} (more : Nested rest) : Nested (item i :: rest)
  | slot {inside rest : List Write} (within : Nested inside) (more : Nested rest) :
      Nested (reserve :: (inside ++ backpatch :: rest))

-- How many bytes are written before a slot is filled in, while `depth` newer ones are open.
def untilFilled : Nat → List Write → Nat
  | _, [] => 0
  | depth, item i :: rest => i.bytes.length + untilFilled depth rest
  | depth, reserve :: rest => 4 + untilFilled (depth + 1) rest
  | 0, backpatch :: _ => 0
  | depth + 1, backpatch :: rest => untilFilled depth rest

-- A slot counts its own four bytes too; `rest` is what is done after it was reserved.
def slotLength (rest : List Write) : Nat :=
  4 + untilFilled 0 rest

def items : List Write → List Item
  | [] => []
  | item i :: rest => i :: items rest
  | reserve :: rest => .int32 (Int32.ofNat (slotLength rest)) :: items rest
  | backpatch :: rest => items rest

def read? : Write → Option Read
  | item i => some i.read
  | reserve => some .int32
  | backpatch => none

theorem reads_of_items (writes : List Write) :
    writes.filterMap read? = (items writes).map Item.read := by
  induction writes with
  | nil => rfl
  | cons first rest ih =>
    cases first with
    | item i =>
      rw [items, List.map_cons, ← ih]
      rfl
    | reserve =>
      rw [items, List.map_cons, ← ih]
      rfl
    | backpatch => exact ih

theorem items_faithful (writes : List Write) :
    (∀ i ∈ items writes, i.Faithful) ↔ ∀ i, item i ∈ writes → i.Faithful := by
  have number (n : Int32) : (Item.int32 n).Faithful := trivial
  induction writes with
  | nil => simp [items]
  | cons first rest ih => cases first <;> simp [items, ih, number]

def spelled (writes : List Write) : List UInt8 :=
  (items writes).flatMap Item.bytes

theorem spelled_item (i : Item) (rest : List Write) :
    spelled (item i :: rest) = i.bytes ++ spelled rest :=
  List.flatMap_cons

theorem spelled_reserve (rest : List Write) :
    spelled (reserve :: rest) = lengthBytes (slotLength rest) ++ spelled rest := by
  rw [spelled, items, List.flatMap_cons, ← int32Bytes_ofNat]
  rfl

theorem spelled_backpatch (rest : List Write) : spelled (backpatch :: rest) = spelled rest := rfl

theorem spelled_reserve_length (rest : List Write) :
    (spelled (reserve :: rest)).length = 4 + (spelled rest).length := by
  rw [spelled_reserve, List.length_append, lengthBytes, littleEndian_length]

theorem spelled_append_length (writes more : List Write) :
    (spelled (writes ++ more)).length = (spelled writes).length + (spelled more).length := by
  induction writes with
  | nil => exact (Nat.zero_add _).symm
  | cons first rest ih =>
    cases first with
    | item i =>
      rw [List.cons_append, spelled_item, spelled_item, List.length_append, List.length_append, ih,
        Nat.add_assoc]
    | reserve =>
      rw [List.cons_append, spelled_reserve_length, spelled_reserve_length, ih, Nat.add_assoc]
    | backpatch => exact ih

namespace Nested

variable {inside writes : List Write}

-- Slots that are filled in matter to one around them for the bytes only that they take.
theorem untilFilled_append (nested : Nested inside) (depth : Nat) (rest : List Write) :
    untilFilled depth (inside ++ rest) = (spelled inside).length + untilFilled depth rest := by
  induction nested generalizing depth rest with
  | nil => exact (Nat.zero_add _).symm
  | item more ih =>
    rw [List.cons_append, untilFilled, ih, spelled_item, List.length_append, Nat.add_assoc]
  | @slot within others _ _ ihWithin ihOthers =>
    have size : (spelled (reserve :: (within ++ backpatch :: others))).length =
        4 + ((spelled within).length + (spelled others).length) := by
      rw [spelled_reserve_length, spelled_append_length, spelled_backpatch]
    rw [size, List.cons_append, List.append_assoc, List.cons_append, untilFilled, ihWithin,
      untilFilled, ihOthers]
    omega

theorem slotLength_exact (nested : Nested inside) (rest : List Write) :
    slotLength (inside ++ backpatch :: rest) = 4 + (spelled inside).length := by
  rw [slotLength, nested.untilFilled_append, untilFilled, Nat.add_zero]

theorem items_append (nested : Nested inside) (rest : List Write) :
    items (inside ++ rest) = items inside ++ items rest := by
  induction nested generalizing rest with
  | nil => rfl
  | item more ih => rw [List.cons_append, items, ih, items, List.cons_append]
  | @slot within others nestedWithin _ ihWithin ihOthers =>
    rw [List.cons_append, List.append_assoc, List.cons_append, items, items,
      nestedWithin.slotLength_exact, nestedWithin.slotLength_exact, ihWithin, ihWithin, items,
      items, ihOthers, List.cons_append, List.append_assoc]

theorem spelled_append (nested : Nested inside) (rest : List Write) :
    spelled (inside ++ rest) = spelled inside ++ spelled rest := by
  rw [spelled, nested.items_append, List.flatMap_append]
  rfl

end Nested

theorem backpatch_reserved (s : Sink) (inside : List UInt8) :
    (Sink.mk (s.reserveLength.2.bytes ++ inside)).backpatchLength s.reserveLength.1 =
      ⟨s.bytes ++ (lengthBytes (4 + inside.length) ++ inside)⟩ := by
  have four : (lengthBytes 0).length = 4 := littleEndian_length 4 0
  have whole : s.reserveLength.2.bytes ++ inside = s.bytes ++ (lengthBytes 0 ++ inside) :=
    List.append_assoc ..
  have before : (s.bytes ++ (lengthBytes 0 ++ inside)).take s.bytes.length = s.bytes :=
    List.take_left
  have counted : (s.bytes ++ (lengthBytes 0 ++ inside)).length - s.bytes.length =
      4 + inside.length := by
    rw [List.length_append, List.length_append, four, Nat.add_sub_cancel_left]
  have behind : (s.bytes ++ (lengthBytes 0 ++ inside)).drop (s.bytes.length + 4) = inside := by
    rw [← List.drop_drop, List.drop_left, List.drop_left' four]
  rw [whole, Sink.backpatchLength, Sink.reserveLength, Sink.size, Sink.size, before, counted,
    behind, List.append_assoc]

theorem runAll_cons (first : Write) (rest : List Write) (w : Writing) :
    runAll (first :: rest) w = (run w first).bind (runAll rest) :=
  List.foldlM_cons

theorem runAll_append (writes more : List Write) (w : Writing) :
    runAll (writes ++ more) w = (runAll writes w).bind (runAll more) :=
  List.foldlM_append

theorem Nested.written {writes : List Write} (nested : Nested writes) (w : Writing) :
    runAll writes w = some ⟨⟨w.sink.bytes ++ spelled writes⟩, w.slots⟩ := by
  induction nested generalizing w with
  | nil =>
    rw [show spelled [] = [] from rfl, List.append_nil]
    rfl
  | item more ih =>
    rw [runAll_cons, run, Item.write_bytes, Option.bind_some, ih, spelled_item, List.append_assoc]
  | @slot within others nestedWithin _ ihWithin ihOthers =>
    have filled : run ⟨⟨w.sink.reserveLength.2.bytes ++ spelled within⟩,
        w.sink.reserveLength.1 :: w.slots⟩ backpatch =
          some ⟨⟨w.sink.bytes ++ (lengthBytes (4 + (spelled within).length) ++ spelled within)⟩,
            w.slots⟩ :=
      congrArg (fun sink => some (Writing.mk sink w.slots)) (backpatch_reserved ..)
    calc runAll (reserve :: (within ++ backpatch :: others)) w
      _ = runAll (within ++ backpatch :: others)
            ⟨w.sink.reserveLength.2, w.sink.reserveLength.1 :: w.slots⟩ := rfl
      _ = runAll (backpatch :: others)
            ⟨⟨w.sink.reserveLength.2.bytes ++ spelled within⟩,
              w.sink.reserveLength.1 :: w.slots⟩ := by
        rw [runAll_append, ihWithin, Option.bind_some]
      _ = runAll others
            ⟨⟨w.sink.bytes ++ (lengthBytes (4 + (spelled within).length) ++ spelled within)⟩,
              w.slots⟩ := by
        rw [runAll_cons, filled, Option.bind_some]
      _ = some ⟨⟨w.sink.bytes ++ spelled (reserve :: (within ++ backpatch :: others))⟩,
            w.slots⟩ := by
        rw [ihOthers, spelled_reserve, nestedWithin.slotLength_exact, nestedWithin.spelled_append,
          spelled_backpatch]
        simp only [List.append_assoc]

example : runAll [.reserve, .item (.byte 0), .backpatch] .start = some ⟨⟨[5, 0, 0, 0, 0]⟩, []⟩ := by
  rfl

-- What can follow while some slots are open: one after the other they are filled in.
inductive Closing : Nat → List Write → Prop where
  | done {writes : List Write} (nested : Nested writes) : Closing 0 writes
  | next {depth : Nat} {inside rest : List Write} (nested : Nested inside)
      (more : Closing depth rest) : Closing (depth + 1) (inside ++ backpatch :: rest)

theorem Closing.item {depth : Nat} {i : Item} {rest : List Write} (closing : Closing depth rest) :
    Closing depth (.item i :: rest) := by
  cases closing with
  | done nested => exact .done (.item nested)
  | next nested more => exact .next (.item nested) more

theorem Closing.reserve {depth : Nat} {rest : List Write} (closing : Closing (depth + 1) rest) :
    Closing depth (.reserve :: rest) := by
  cases closing with
  | @next _ inside _ nested more =>
    cases more with
    | done others => exact .done (.slot nested others)
    | @next depth outside rest others more =>
      have whole : Write.reserve :: (inside ++ backpatch :: (outside ++ backpatch :: rest)) =
          (Write.reserve :: (inside ++ backpatch :: outside)) ++ backpatch :: rest := by simp
      rw [whole]
      exact .next (.slot nested others) more

theorem closing_of_run {writes : List Write} {w : Writing} {sink : Sink}
    (ran : runAll writes w = some ⟨sink, []⟩) : Closing w.slots.length writes := by
  induction writes generalizing w with
  | nil =>
    cases ran
    exact .done .nil
  | cons first rest ih =>
    rw [runAll_cons] at ran
    obtain ⟨next, stepped, more⟩ := Option.bind_eq_some_iff.mp ran
    have closing := ih more
    cases first with
    | item i =>
      cases stepped
      exact closing.item
    | reserve =>
      cases stepped
      exact closing.reserve
    | backpatch =>
      rw [run] at stepped
      split at stepped
      · cases stepped
      · rename_i slot slots opened
        cases stepped
        rw [opened]
        exact .next .nil closing

theorem nested_exact (writes : List Write) :
    Nested writes ↔ ∃ sink, runAll writes .start = some ⟨sink, []⟩ := by
  constructor
  · intro nested
    exact ⟨_, nested.written .start⟩
  · intro parts
    obtain ⟨sink, ran⟩ := parts
    cases closing_of_run ran with
    | done nested => exact nested

theorem Nested.size_before_filled {inside : List Write} (nested : Nested inside) (w : Writing) :
    ∃ next, runAll (reserve :: inside) w = some next ∧
      next.sink.size = w.sink.size + (4 + (spelled inside).length) := by
  refine ⟨_, nested.written ⟨w.sink.reserveLength.2, w.sink.reserveLength.1 :: w.slots⟩, ?_⟩
  have four : (lengthBytes 0).length = 4 := littleEndian_length 4 0
  simp only [Sink.size, Sink.reserveLength, Sink.write, List.length_append, four, Nat.add_assoc]

-- The length that a slot is read as, by the sizes of the buffer when the slot is reserved and when
-- it is filled in.
theorem slot_measured {before inside rest : List Write} (nested : Nested inside)
    (whole : Nested (before ++ reserve :: (inside ++ backpatch :: rest)))
    (small : (spelled (before ++ reserve :: (inside ++ backpatch :: rest))).length < 2 ^ 31) :
    ∃ opened full, runAll before .start = some opened ∧
      runAll (before ++ reserve :: inside) .start = some full ∧
      (Int32.ofNat (slotLength (inside ++ backpatch :: rest))).toInt =
        full.sink.size - opened.sink.size := by
  have ran := whole.written .start
  rw [runAll_append] at ran
  obtain ⟨opened, ranBefore, -⟩ := Option.bind_eq_some_iff.mp ran
  obtain ⟨full, ranInside, grown⟩ := nested.size_before_filled opened
  refine ⟨opened, full, ranBefore, ?_, ?_⟩
  · rw [runAll_append, ranBefore, Option.bind_some, ranInside]
  · rw [spelled_append_length, spelled_reserve_length, spelled_append_length] at small
    rw [nested.slotLength_exact, Int32.toInt_ofNat_of_lt (by omega), grown]
    omega

-- Any uses of a new buffer in which the slots are nested, and any reads of any bytes. The lengths
-- that are written are signed words, so the whole must not be too long for one.
theorem read_back_exact (writes : List Write) (nested : Nested writes) :
    (∃ sink, runAll writes .start = some ⟨sink, []⟩ ∧
      (sink.size < 2 ^ 31 →
        ((∀ i, item i ∈ writes → i.Faithful) ↔
          Read.runAll (writes.filterMap read?) (.ofBytes sink.bytes) =
            (some (items writes), ⟨sink.size, []⟩)) ∧
        ∀ before inside rest, writes = before ++ reserve :: (inside ++ backpatch :: rest) →
          Nested inside → ∃ opened full, runAll before .start = some opened ∧
            runAll (before ++ reserve :: inside) .start = some full ∧
            (Int32.ofNat (slotLength (inside ++ backpatch :: rest))).toInt =
              full.sink.size - opened.sink.size)) ∧
    ∀ (data : List UInt8) (reads : List Read) (r : Read),
      let reached := Read.follow reads (.ofBytes data)
      let after := (r.run reached).2
      reached.index ≤ after.index ∧ after.index ≤ data.length ∧ after = place data after.index := by
  refine ⟨⟨⟨spelled writes⟩, nested.written .start, ?_⟩, ?_⟩
  · intro small
    refine ⟨?_, ?_⟩
    · have moved : (Cursor.ofBytes (spelled writes)).Moves (spelled writes)
          ⟨(spelled writes).length, []⟩ :=
        ⟨(List.append_nil _).symm, (Nat.zero_add _).symm⟩
      rw [reads_of_items, ← items_faithful]
      exact (and_iff_left moved).symm.trans (Item.runAll_exact small).symm
    · intro before inside rest same within
      subst same
      exact slot_measured within nested small
  · intro data reads r
    obtain ⟨i, -, inside, reached⟩ := Read.follow_keeps reads (Nat.zero_le data.length)
    obtain ⟨stop, forth, within, after⟩ := Read.run_keeps r inside
    have start : Read.follow reads (.ofBytes data) = place data i := reached
    dsimp only
    rw [start, after]
    exact ⟨forth, within, rfl⟩

-- A slot inside of another, and a text with a NUL inside that its length carries over.
def record : List Write :=
  [.reserve, .item (.byte 0x10), .item (.cstring "a"), .item (.int32 (-2)), .reserve,
    .item (.string "h\x00i"), .item (.double ⟨0x7ff8000000000001⟩), .backpatch, .item (.bool true),
    .item (.raw [0, 255]), .item (.uint64 0xffffffffffffffff), .item (.int64 (-3)), .backpatch]

-- A text that claims to be longer than the bytes behind its length.
def short : List UInt8 :=
  [5, 0, 0, 0, 1]

theorem read_back_exact_record :
    Nested record ∧
      items record =
        [.int32 50, .byte 0x10, .cstring "a", .int32 (-2), .int32 20, .string "h\x00i",
          .double ⟨0x7ff8000000000001⟩, .bool true, .raw [0, 255], .uint64 0xffffffffffffffff,
          .int64 (-3)] ∧
      (∃ sink, runAll record .start = some ⟨sink, []⟩ ∧ sink.size = 50 ∧
        Read.runAll (record.filterMap read?) (.ofBytes sink.bytes) =
          (some (items record), ⟨50, []⟩)) ∧
      Read.string.run (.ofBytes short) = (none, place short 4) ∧
      (Read.string.run (.ofBytes short)).2.index ≤ short.length := by
  have nested : Nested record := (nested_exact record).mpr ⟨_, rfl⟩
  have failed : Read.string.run (.ofBytes short) = (none, place short 4) := by rfl
  have faithful : ∀ i, item i ∈ record → i.Faithful := (items_faithful record).mp (by decide)
  obtain ⟨⟨sink, ran, back⟩, stays⟩ := read_back_exact record nested
  have size : sink.size = 50 := by
    have bytes := ran.symm.trans (nested.written .start)
    cases bytes
    rfl
  obtain ⟨same, -⟩ := back (by rw [size]; decide)
  have read := same.mp faithful
  rw [size] at read
  obtain ⟨-, within, -⟩ := stays short [] .string
  exact ⟨nested, by rfl, ⟨sink, ran, size, read⟩, failed, within⟩

end Write

end WireSchema.Bson
