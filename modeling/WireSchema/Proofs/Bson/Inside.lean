import Mathlib.Data.List.TakeWhile
import WireSchema.Proofs.Bson.Indexed
import WireSchema.Proofs.Bson.RoundTrip

namespace WireSchema.Bson

-- No run of the decoder by index is broken off: it comes to the outcome of the decoder, with the
-- index where the cursor is.

def Cursor.place (data : List UInt8) (i : Nat) : Cursor :=
  ⟨i, data.drop i⟩

namespace Indexed

-- The run from `i` on comes to the outcome of `read`, no byte outside of the string is touched, and
-- the cursor has not moved back.
def Follows {α : Type} (data : List UInt8) (i : Nat) (run : Except Breach (α × Nat))
    (read : α × Cursor) : Prop :=
  ∃ a stop, i ≤ stop ∧ stop ≤ data.length ∧ run = .ok (a, stop) ∧ read = (a, .place data stop)

open Cursor (place)

section

variable {α β : Type} {data : List UInt8} {i j : Nat}

theorem place_rest (data : List UInt8) (i : Nat) : (place data i).rest = data.drop i := rfl

theorem place_advance (data : List UInt8) (i n : Nat) :
    (place data i).advance n = place data (i + n) := by
  simp [place, Cursor.advance]

theorem follows_here {a : α} (inside : i ≤ data.length) :
    Follows data i (.ok (a, i)) (a, place data i) :=
  ⟨a, i, Nat.le_refl i, inside, rfl, rfl⟩

theorem Follows.outcome {run : Except Breach (α × Nat)} {read : α × Cursor}
    (follows : Follows data i run read) :
    ∃ stop, i ≤ stop ∧ stop ≤ data.length ∧ read.2 = place data stop ∧
      run = .ok (read.1, stop) := by
  obtain ⟨a, stop, forth, within, ran, rfl⟩ := follows
  exact ⟨stop, forth, within, rfl, ran⟩

theorem Follows.from {run : Except Breach (α × Nat)} {read : α × Cursor} (forth : i ≤ j)
    (follows : Follows data j run read) : Follows data i run read := by
  obtain ⟨a, stop, further, rest⟩ := follows
  exact ⟨a, stop, forth.trans further, rest⟩

theorem run_bind {x : Reading α} {f : α → Reading β} {a : α} (ran : x.run i = .ok (a, j)) :
    (x >>= f).run i = (f a).run j := by
  rw [StateT.run_bind, ran]
  rfl

theorem run_get {f : Nat → Decoding β} :
    (get >>= f : Decoding β).run.run i = (f i).run.run i := rfl

theorem run_set {f : PUnit → Decoding β} :
    (set j >>= f : Decoding β).run.run i = (f ⟨⟩).run.run j := rfl

theorem run_lift {x : Reading α} {f : α → Decoding β} {a : α} (ran : x.run i = .ok (a, j)) :
    ((liftM x : Decoding α) >>= f).run.run i = (f a).run.run j := by
  simp only [ExceptT.run_bind, ExceptT.run_liftM, map_eq_pure_bind, bind_assoc, run_bind ran]
  rfl

theorem run_ok {x : Decoding α} {f : α → Decoding β} {a : α} (ran : x.run.run i = .ok (.ok a, j)) :
    (x >>= f).run.run i = (f a).run.run j := by
  rw [ExceptT.run_bind, run_bind ran]

theorem run_error {x : Decoding α} {f : α → Decoding β} {e : DecodeError}
    (ran : x.run.run i = .ok (.error e, j)) : (x >>= f).run.run i = .ok (.error e, j) := by
  rw [ExceptT.run_bind, run_bind ran]
  rfl

theorem orThrow_some {read : Reading (Option α)} {error : DecodeError} {a : α}
    (ran : read.run i = .ok (some a, j)) : (orThrow error read).run.run i = .ok (.ok a, j) := by
  unfold orThrow
  rw [run_lift ran]
  rfl

theorem orThrow_none {read : Reading (Option α)} {error : DecodeError}
    (ran : read.run i = .ok (none, j)) :
    (orThrow error read).run.run i = .ok (.error error, j) := by
  unfold orThrow
  rw [run_lift ran]
  rfl

theorem byteAt_inside (inside : i < data.length) (j : Nat) :
    ∃ b, (byteAt data i).run j = .ok (b, j) ∧ data.drop i = b :: data.drop (i + 1) := by
  refine ⟨data.get ⟨i, inside⟩, ?_, List.drop_eq_getElem_cons inside⟩
  unfold byteAt
  rw [List.getElem?_eq_getElem inside]
  rfl

theorem slice_inside (order : i ≤ j) (inside : j ≤ data.length) (k : Nat) :
    (slice data i j).run k = .ok ((data.drop i).take (j - i), k) := by
  unfold slice
  rw [if_pos ⟨order, inside⟩]
  rfl

theorem readByte_follows (inside : i ≤ data.length) :
    Follows data i ((readByte data).run i) (place data i).readByte := by
  show Follows data i (StateT.run (if data.length ≤ i then _ else _) i) _
  split
  · rename_i short
    have empty : data.drop i = [] := List.drop_eq_nil_of_le short
    have same : (place data i).readByte = (none, place data i) := by
      simp [Cursor.readByte, place, empty]
    rw [same]
    exact follows_here inside
  · rename_i some
    obtain ⟨b, taken, ahead⟩ := byteAt_inside (Nat.lt_of_not_le some) i
    rw [run_bind taken, Cursor.readByte, place, ahead]
    exact ⟨_, i + 1, Nat.le_succ i, by omega, rfl, rfl⟩

theorem readBytes_follows (n : Nat) (inside : i ≤ data.length) :
    Follows data i ((readBytes data n).run i) ((place data i).readBytes n) := by
  show Follows data i (StateT.run (if data.length < i + n then _ else _) i) _
  have ahead : (place data i).rest.length = data.length - i := List.length_drop
  unfold Cursor.readBytes
  split
  · rename_i short
    rw [if_neg (by omega)]
    exact follows_here inside
  · rename_i enough
    rw [if_pos (by omega), run_bind (slice_inside (by omega) (by omega) i), Nat.add_sub_cancel_left]
    exact ⟨_, i + n, by omega, by omega, rfl, by rw [place_advance, place_rest]⟩

theorem mapRead_readFixed (n : Nat) (c : Cursor) :
    Cursor.mapRead Subtype.val (c.readFixed n) = c.readBytes n := by
  unfold Cursor.readFixed Cursor.readBytes
  split <;> rfl

theorem readFixed_follows (n : Nat) (inside : i ≤ data.length) :
    Follows data i ((readFixed data n).run i) ((place data i).readFixed n) := by
  obtain ⟨result, stop, forth, within, ran, same⟩ := readBytes_follows n inside
  rw [← mapRead_readFixed] at same
  unfold readFixed
  rw [run_bind ran]
  cases read : (place data i).readFixed n with
  | mk fixed after =>
    rw [read] at same
    obtain ⟨rfl, rfl⟩ := Prod.mk.inj same
    cases fixed with
    | none => exact ⟨none, stop, forth, within, rfl, rfl⟩
    | some bytes =>
      refine ⟨some bytes, stop, forth, within, ?_, rfl⟩
      dsimp only [Option.map_some]
      rw [dif_pos bytes.property]
      rfl

theorem readWord_follows (width : Nat) (ofBytes : List UInt8 → α) (inside : i ≤ data.length) :
    Follows data i ((readWord data width ofBytes).run i)
      (Cursor.mapRead ofBytes ((place data i).readBytes width)) := by
  obtain ⟨fixed, stop, forth, within, ran, same⟩ := readFixed_follows width inside
  unfold readWord
  rw [run_bind ran, ← mapRead_readFixed, same]
  refine ⟨_, stop, forth, within, rfl, ?_⟩
  cases fixed <;> rfl

theorem readInt32_follows (inside : i ≤ data.length) :
    Follows data i ((readInt32 data).run i) (place data i).readInt32 :=
  readWord_follows 4 int32OfBytes inside

theorem readBool_follows (inside : i ≤ data.length) :
    Follows data i ((readBool data).run i) (place data i).readBool := by
  obtain ⟨result, stop, forth, within, ran, same⟩ := readByte_follows inside
  unfold readBool Cursor.readBool
  rw [run_bind ran, same]
  cases result with
  | none => exact ⟨none, stop, forth, within, rfl, rfl⟩
  | some b => exact ⟨_, stop, forth, within, rfl, rfl⟩

theorem scan_follows {i start : Nat} {text : List UInt8} (clean : 0 ∉ text)
    (whole : data.drop start = text ++ data.drop i) (reached : i = start + text.length)
    (inside : i ≤ data.length) :
    Follows data i ((scan data start i).run i) (place data start).readCString := by
  unfold scan
  split
  · rename_i more
    obtain ⟨b, taken, ahead⟩ := byteAt_inside more i
    rw [ahead] at whole
    rw [run_bind taken]
    show Follows data i (StateT.run (if b = 0 then _ else _) (i + 1)) _
    split
    · rename_i zero
      subst zero
      have front : (data.drop start).take (i - start) = text := by
        rw [whole, show i - start = text.length by omega, List.take_left]
      obtain ⟨scanned, shorter, -⟩ := Cursor.scan_exact.mpr ⟨clean, whole⟩
      rw [run_bind (slice_inside (by omega) inside (i + 1)), front]
      refine ⟨_, i + 1, Nat.le_succ i, more, rfl, ?_⟩
      simp only [Cursor.readCString, place_rest, scanned, if_pos shorter, place_advance, reached,
        Nat.add_assoc]
    · rename_i other
      have longer : data.drop start = (text ++ [b]) ++ data.drop (i + 1) := by
        rw [whole, List.append_assoc, List.singleton_append]
      have still : 0 ∉ text ++ [b] := by
        simp [clean, Ne.symm other]
      have next : i + 1 = start + (text ++ [b]).length := by
        rw [reached, List.length_append, List.length_singleton, Nat.add_assoc]
      exact (scan_follows still longer next more).from (Nat.le_succ i)
  · rename_i last
    have ended : data.drop i = [] := List.drop_eq_nil_of_le (Nat.le_of_not_lt last)
    have all : (data.drop start).takeWhile (· != 0) = text := by
      rw [whole, ended, List.append_nil, List.takeWhile_eq_self_iff]
      intro b member
      have other : b ≠ 0 := fun zero => clean (zero ▸ member)
      simpa using other
    have size : (data.drop start).length = text.length := by rw [whole, ended, List.append_nil]
    refine ⟨none, i, Nat.le_refl i, inside, rfl, ?_⟩
    simp only [Cursor.readCString, place_rest, all, size, Nat.lt_irrefl, if_false, place_advance,
      reached]
termination_by data.length - i

theorem readCString_follows (inside : i ≤ data.length) :
    Follows data i ((readCString data).run i) (place data i).readCString :=
  scan_follows List.not_mem_nil rfl rfl inside

theorem readString_follows (inside : i ≤ data.length) :
    Follows data i ((readString data).run i) (place data i).readString := by
  obtain ⟨result, j, forth, within, ran, same⟩ := readInt32_follows inside
  unfold readString Cursor.readString
  rw [run_bind ran, same]
  cases result with
  | none => exact ⟨none, j, forth, within, rfl, rfl⟩
  | some length =>
    dsimp only
    split
    · exact ⟨none, j, forth, within, rfl, rfl⟩
    · obtain ⟨result, k, further, within, ran, same⟩ := readBytes_follows length.toInt.toNat within
      rw [run_bind ran, same]
      cases result with
      | none => exact ⟨none, k, forth.trans further, within, rfl, rfl⟩
      | some bytes => exact ⟨_, k, forth.trans further, within, rfl, rfl⟩

theorem decoded_follows {read : Reading (Option α)} {attempt : Attempt α} {error : DecodeError}
    {f : α → β} (follows : Follows data i (read.run i) attempt) :
    Follows data i (StateT.run (ExceptT.run (do return f (← orThrow error read))) i)
      (Attempt.decoded error f attempt) := by
  obtain ⟨result, stop, forth, within, ran, same⟩ := follows
  rw [same]
  cases result with
  | none => exact ⟨_, stop, forth, within, run_error (orThrow_none ran), rfl⟩
  | some a => exact ⟨_, stop, forth, within, run_ok (orThrow_some ran), rfl⟩

theorem readBinary_follows (inside : i ≤ data.length) :
    Follows data i ((readBinary data).run.run i) (Bson.readBinary (place data i)) := by
  unfold readBinary Bson.readBinary
  obtain ⟨result, j, forth, within, ran, same⟩ := readInt32_follows inside
  rw [run_get, same]
  cases result with
  | none => exact ⟨_, j, forth, within, run_error (orThrow_none ran), rfl⟩
  | some length =>
    rw [run_ok (orThrow_some ran)]
    dsimp only
    split
    · exact ⟨_, j, forth, within, rfl, rfl⟩
    · obtain ⟨result, k, further, within, ran, same⟩ := readByte_follows within
      rw [same]
      cases result with
      | none => exact ⟨_, k, forth.trans further, within, run_error (orThrow_none ran), rfl⟩
      | some subtype =>
        rw [run_ok (orThrow_some ran)]
        exact (decoded_follows (readBytes_follows _ within)).from (forth.trans further)

theorem readRegex_follows (inside : i ≤ data.length) :
    Follows data i ((readRegex data).run.run i) (Bson.readRegex (place data i)) := by
  unfold readRegex Bson.readRegex
  obtain ⟨result, j, forth, within, ran, same⟩ := readCString_follows inside
  rw [run_get, same]
  cases result with
  | none => exact ⟨_, j, forth, within, run_error (orThrow_none ran), rfl⟩
  | some pattern =>
    rw [run_ok (orThrow_some ran)]
    exact (decoded_follows (readCString_follows within)).from forth

end

section

variable {data : List UInt8} {inner : Decoding Document} {nested : Cursor → Outcome Document}
  (follows : ∀ {i}, i ≤ data.length → Follows data i (inner.run.run i) (nested (place data i)))

include follows

theorem embedded_follows {i : Nat} {outer : Outcome Value} (wrap : Document → Value)
    (inside : i ≤ data.length)
    (passed : ∀ {d c}, nested (place data i) = (.ok d, c) → outer = (.ok (wrap d), c))
    (failed : ∀ {e c}, nested (place data i) = (.error e, c) → outer = (.error e, c)) :
    Follows data i (StateT.run (ExceptT.run (do return wrap (← inner))) i) outer := by
  obtain ⟨result, stop, forth, within, ran, same⟩ := follows inside
  cases result with
  | error e => exact ⟨_, stop, forth, within, run_error ran, failed same⟩
  | ok d => exact ⟨_, stop, forth, within, run_ok ran, passed same⟩

theorem readValueOf_follows {i : Nat} (kind : Kind) (inside : i ≤ data.length) :
    Follows data i ((readValueOf data inner kind).run.run i)
      (Bson.readValueOf nested kind (place data i)) := by
  unfold readValueOf Bson.readValueOf
  rw [run_get]
  cases kind with
  | double => exact decoded_follows (readWord_follows 8 _ inside)
  | string => exact decoded_follows (readString_follows inside)
  | object =>
    exact embedded_follows follows Value.document inside (fun same => by simp only [same])
      fun same => by simp only [same]
  | array =>
    exact embedded_follows follows Value.array inside (fun same => by simp only [same])
      fun same => by simp only [same]
  | binData => exact readBinary_follows inside
  | undefined => exact follows_here inside
  | objectId => exact decoded_follows (readFixed_follows 12 inside)
  | bool => exact decoded_follows (readBool_follows inside)
  | date => exact decoded_follows (readWord_follows 8 _ inside)
  | null => exact follows_here inside
  | regex => exact readRegex_follows inside
  | int32 => exact decoded_follows (readInt32_follows inside)
  | timestamp => exact decoded_follows (readWord_follows 8 _ inside)
  | int64 => exact decoded_follows (readWord_follows 8 _ inside)
  | decimal128 => exact decoded_follows (readFixed_follows 16 inside)

theorem readValue_follows {i : Nat} (tag : UInt8) (field : String) (inside : i ≤ data.length) :
    Follows data i ((readValue data inner tag field).run.run i)
      (Bson.readValue nested tag field (place data i)) := by
  unfold readValue Bson.readValue
  cases Kind.ofTag? tag with
  | none => exact follows_here inside
  | some kind => exact readValueOf_follows follows kind inside

-- Before each element there is room for one more byte, and every round takes some.
theorem readElements_follows {length : Int32} {offset fuel i : Nat}
    (room : i < offset + length.toInt.toNat) (counted : offset + length.toInt.toNat ≤ data.length)
    (enough : data.length - i ≤ fuel) :
    Follows data i ((readElements data inner length offset fuel).run.run i)
      (Bson.readElements nested length offset fuel (place data i)) := by
  induction fuel generalizing i with
  | zero => omega
  | succ fuel ih =>
    obtain ⟨tag, taken, ahead⟩ := byteAt_inside (show i < data.length by omega) i
    have tagged : (place data i).readByte = (some tag, place data (i + 1)) := by
      rw [Cursor.readByte, place_rest, ahead]
      rfl
    rw [readElements, Bson.readElements, run_get, run_lift taken, run_set, tagged]
    dsimp only
    split
    · by_cases ended : i + 1 = offset + length.toInt.toNat
      · rw [if_pos ended, if_pos (show (place data (i + 1)).index = _ from ended)]
        exact ⟨_, i + 1, Nat.le_succ i, by omega, rfl, rfl⟩
      · rw [if_neg ended, if_neg (show (place data (i + 1)).index ≠ _ from ended)]
        exact ⟨_, i + 1, Nat.le_succ i, by omega, rfl, rfl⟩
    · obtain ⟨result, j, past, within, ran, same⟩ :=
        readCString_follows (show i + 1 ≤ data.length by omega)
      rw [run_lift ran, same]
      cases result with
      | none => exact ⟨_, j, by omega, within, rfl, rfl⟩
      | some name =>
        obtain ⟨result, k, further, within, ran, same⟩ := readValue_follows follows tag name within
        dsimp only
        rw [same]
        cases result with
        | error e => exact ⟨_, k, by omega, within, run_error ran, rfl⟩
        | ok value =>
          rw [run_ok ran, run_get]
          dsimp only
          by_cases full : offset + length.toInt.toNat ≤ k
          · rw [if_pos full, if_pos (show _ ≤ (place data k).index from full)]
            exact ⟨_, k, by omega, within, rfl, rfl⟩
          · rw [if_neg full, if_neg (show ¬_ ≤ (place data k).index from full)]
            obtain ⟨result, stop, onward, within, ran, same⟩ :=
              ih (Nat.lt_of_not_le full) (by omega)
            rw [same]
            cases result with
            | error e => exact ⟨_, stop, by omega, within, run_error ran, rfl⟩
            | ok rest => exact ⟨_, stop, by omega, within, run_ok ran, rfl⟩

end

section

variable {data : List UInt8} {i : Nat}

theorem readNested_follows (levels : Nat) (inside : i ≤ data.length) :
    Follows data i ((readNested data levels).run.run i)
      (Bson.readNested levels (place data i)) := by
  induction levels generalizing i with
  | zero => exact follows_here inside
  | succ levels ih =>
    obtain ⟨result, j, forth, within, ran, same⟩ := readInt32_follows inside
    rw [readNested, Bson.readNested, run_get, same]
    cases result with
    | none => exact ⟨_, j, forth, within, run_error (orThrow_none ran), rfl⟩
    | some length =>
      rw [run_ok (orThrow_some ran)]
      dsimp only
      have ahead : (place data i).remaining = data.length - i := List.length_drop
      have left : (place data j).remaining = data.length - j := List.length_drop
      have four : (int32Bytes length).length = 4 := littleEndian_length 4 _
      have past : j = i + _ := (Cursor.readInt32_exact.mp same).behind
      by_cases short : length.toInt < 5 ∨ data.length < i + length.toInt.toNat
      · rw [if_pos short, if_pos (by omega)]
        exact ⟨_, j, forth, within, rfl, rfl⟩
      · rw [if_neg short, if_neg (by omega), run_get, left]
        exact (readElements_follows ih (by omega) (by omega) (Nat.le_refl _)).from forth

end

end Indexed

open Cursor (place)

def declaredLength (data : List UInt8) (start : Nat) : Int :=
  (int32OfBytes ((data.drop start).take 4)).toInt

theorem Document.read_declared {data : List UInt8} {start : Nat} {d : Document} {after : Cursor}
    (read : Document.read (place data start) = (.ok d, after)) :
    (after.index : Int) = start + declaredLength data start := by
  obtain ⟨encodable, moved⟩ := Document.read_exact.mp read
  have ahead : data.drop start = d.encode ++ after.rest := moved.ahead
  have behind : after.index = start + d.encode.length := moved.behind
  obtain ⟨field, value⟩ := lengthBytes_eq_int32Bytes encodable.fits
  obtain ⟨-, declared⟩ := (int32_exact (lengthBytes d.encode.length) _).mpr field
  have front : (data.drop start).take 4 = lengthBytes d.encode.length := by
    rw [ahead, Document.encode, framed_length, framed, List.append_assoc, List.append_assoc]
    exact List.take_left' (littleEndian_length 4 _)
  rw [declaredLength, front, declared, value, behind]
  exact Int.natCast_add ..

-- For any bytes and any start among them, whether or not a document or a value can be read there.
-- The runs by index answer, so that no access lies outside, no loop goes on for ever, and the byte
-- that is taken for the type of an element is always there.
theorem reads_stay_inside (data : List UInt8) (start : Nat) (inside : start ≤ data.length)
    (tag : UInt8) (field : String) :
    let document := Document.read (place data start)
    let value := Value.read tag field (place data start)
    (∃ stop, start ≤ stop ∧ stop ≤ data.length ∧ document.2 = place data stop ∧
      (Indexed.readDocument data).run.run start = .ok (document.1, stop)) ∧
    (∃ stop, start ≤ stop ∧ stop ≤ data.length ∧ value.2 = place data stop ∧
      (Indexed.readField data tag field).run.run start = .ok (value.1, stop)) ∧
    ∀ d, document.1 = .ok d → (document.2.index : Int) = start + declaredLength data start := by
  intro document value
  refine ⟨?_, ?_, ?_⟩
  · exact (Indexed.readNested_follows (maxNesting + 1) inside).outcome
  · have follows := Indexed.readValue_follows (Indexed.readNested_follows maxNesting) tag field inside
    exact follows.outcome
  · intro d decoded
    exact Document.read_declared (Prod.ext decoded rfl)

-- An array between two bytes that do not belong to it, and then a text inside the array that claims
-- to be longer than all the data.
def intruders : List UInt8 :=
  [7, 17, 0, 0, 0, 4, 97, 0, 9, 0, 0, 0, 8, 55, 0, 1, 0, 0, 9]

def greedy : List UInt8 :=
  [7, 17, 0, 0, 0, 4, 97, 0, 9, 0, 0, 0, 2, 55, 0, 255, 0, 0, 0]

theorem reads_stay_inside_intruders :
    Document.read (place intruders 1) =
        (.ok [("a", .array [("7", .bool true)])], place intruders 18) ∧
      declaredLength intruders 1 = 17 ∧
      Document.read (place greedy 1) = (.error (.invalidText 15), place greedy 19) ∧
      ∃ stop, 1 ≤ stop ∧ stop ≤ 19 ∧
        (Indexed.readDocument greedy).run.run 1 = .ok (.error (.invalidText 15), stop) := by
  have found : Document.read (place intruders 1) =
      (.ok [("a", .array [("7", .bool true)])], place intruders 18) := by rfl
  have refused : Document.read (place greedy 1) = (.error (.invalidText 15), place greedy 19) := by
    rfl
  obtain ⟨-, -, ends⟩ := reads_stay_inside intruders 1 (by decide) 0 ""
  obtain ⟨⟨stop, forth, within, -, ran⟩, -, -⟩ := reads_stay_inside greedy 1 (by decide) 0 ""
  have length := ends _ (congrArg Prod.fst found)
  rw [found] at length
  have declared : (18 : Int) = 1 + declaredLength intruders 1 := length
  rw [refused] at ran
  exact ⟨found, by omega, refused, stop, forth, within, ran⟩

end WireSchema.Bson
