import WireSchema.Proofs.Bson.Encodable
import WireSchema.Proofs.Bson.Reads

namespace WireSchema.Bson

open Cursor

theorem Kind.ofTag?_exact {tag : UInt8} {k : Kind} : Kind.ofTag? tag = some k ↔ k.tag = tag := by
  constructor
  · intro found
    simpa using List.find?_some found
  · intro equal
    cases equal
    exact Kind.ofTag?_tag k

theorem Kind.tag_ne_zero (k : Kind) : k.tag ≠ 0 := by
  cases k <;> decide

theorem Attempt.decoded_exact {α β : Type} {error : DecodeError} {f : α → β} {attempt : Attempt α}
    {b : β} {after : Cursor} :
    Attempt.decoded error f attempt = (.ok b, after) ↔ ∃ a, attempt = (some a, after) ∧ f a = b := by
  obtain ⟨result, place⟩ := attempt
  cases result with
  | none => simp [Attempt.decoded]
  | some a =>
    simp only [Attempt.decoded, Prod.mk.injEq, Except.ok.injEq, Option.some.injEq]
    constructor
    · intro parts
      obtain ⟨rfl, rfl⟩ := parts
      exact ⟨a, ⟨rfl, rfl⟩, rfl⟩
    · intro parts
      obtain ⟨_, ⟨rfl, rfl⟩, rfl⟩ := parts
      exact ⟨rfl, rfl⟩

-- What reading `v` as a value of some kind comes down to, with `levels` of nesting left.
structure Written (levels : Nat) (c : Cursor) (v : Value) (after : Cursor) : Prop where
  faithful : v.Faithful
  shallow : v.depth ≤ levels
  fits : v.Fits
  moved : c.Moves v.encode after

structure WrittenDocument (levels : Nat) (c : Cursor) (d : Document) (after : Cursor) : Prop where
  faithful : ElementsFaithful d
  shallow : nesting d < levels
  fits : d.encode.length < 2 ^ 31
  moved : c.Moves d.encode after

structure WrittenElements (levels stop : Nat) (c : Cursor) (d : Document) (after : Cursor) :
    Prop where
  faithful : ElementsFaithful d
  shallow : nesting d ≤ levels
  fits : ∀ element ∈ d, element.2.Fits
  moved : c.Moves (encodeElements d ++ [0]) after
  stopped : after.index = stop

theorem readBinary_sound {levels : Nat} {c after : Cursor} {v : Value}
    (read : readBinary c = (.ok v, after)) : v.kind = .binData ∧ Written levels c v after := by
  unfold readBinary at read
  dsimp only at read
  split at read
  · cases read
  · rename_i length middle counted
    split at read
    · cases read
    · rename_i counts
      split at read
      · cases read
      · rename_i byte place tagged
        obtain ⟨bytes, taken, rfl⟩ := Attempt.decoded_exact.mp read
        obtain ⟨size, moved⟩ := readBytes_exact.mp taken
        have bound := length.toInt_lt
        obtain ⟨canonical, same⟩ := (Subtype.ofByte_exact byte _).mp rfl
        refine ⟨rfl, ⟨canonical, Nat.zero_le _, ?_, ?_⟩⟩
        · show bytes.length < 2 ^ 31
          omega
        · rw [Value.encode, size, lengthBytes_toNat (by omega), same]
          have header := readInt32_exact.mp counted
          exact header.trans (moves_cons.mpr ⟨place, readByte_exact.mp tagged, moved⟩)

theorem readBinary_complete {levels : Nat} {c after : Cursor} {s : Subtype} {bytes : List UInt8}
    (written : Written levels c (.binary s bytes) after) :
    readBinary c = (.ok (.binary s bytes), after) := by
  obtain ⟨canonical, -, small, moved⟩ := written
  obtain ⟨field, value⟩ := lengthBytes_eq_int32Bytes small
  rw [Value.encode, field] at moved
  obtain ⟨middle, counted, moved⟩ := moves_append.mp moved
  obtain ⟨place, tagged, taken⟩ := moves_cons.mp moved
  unfold readBinary
  dsimp only
  rw [readInt32_exact.mpr counted]
  dsimp only
  rw [if_neg (by omega), readByte_exact.mpr tagged]
  dsimp only
  have size : bytes.length = (Int32.ofNat bytes.length).toInt.toNat := by omega
  rw [Attempt.decoded_exact]
  refine ⟨bytes, readBytes_exact.mpr ⟨size, taken⟩, ?_⟩
  rw [(Subtype.ofByte_exact s.toByte s).mpr ⟨canonical, rfl⟩]

theorem readRegex_sound {levels : Nat} {c after : Cursor} {v : Value}
    (read : readRegex c = (.ok v, after)) : v.kind = .regex ∧ Written levels c v after := by
  unfold readRegex at read
  dsimp only at read
  split at read
  · cases read
  · rename_i pattern middle first
    obtain ⟨options, second, rfl⟩ := Attempt.decoded_exact.mp read
    obtain ⟨patternFree, left⟩ := readCString_exact.mp first
    obtain ⟨optionsFree, right⟩ := readCString_exact.mp second
    exact ⟨rfl, ⟨⟨patternFree, optionsFree⟩, Nat.zero_le _, trivial, left.trans right⟩⟩

theorem readRegex_complete {levels : Nat} {c after : Cursor} {pattern options : String}
    (written : Written levels c (.regex pattern options) after) :
    readRegex c = (.ok (.regex pattern options), after) := by
  obtain ⟨⟨patternFree, optionsFree⟩, -, -, moved⟩ := written
  rw [Value.encode] at moved
  obtain ⟨middle, left, right⟩ := moves_append.mp moved
  unfold readRegex
  dsimp only
  rw [readCString_exact.mpr ⟨patternFree, left⟩]
  exact Attempt.decoded_exact.mpr ⟨options, readCString_exact.mpr ⟨optionsFree, right⟩, rfl⟩

theorem timestampBits_exact (n : UInt64) (time increment : UInt32) :
    (n / 0x100000000).toUInt32 = time ∧ n.toUInt32 = increment ↔
      timestampBits time increment = n := by
  have small := n.toNat_lt
  have high := time.toNat_lt
  have low := increment.toNat_lt
  rw [timestampBits, ← UInt64.toNat_inj, ← UInt32.toNat_inj, ← UInt32.toNat_inj]
  simp only [UInt64.toNat_toUInt32, UInt64.toNat_div, UInt64.toNat_add, UInt64.toNat_mul,
    UInt32.toNat_toUInt64]
  simp only [UInt64.reduceToNat]
  omega

theorem moves_element {c after : Cursor} {name : String} {v : Value} {rest : Document}
    (moved : c.Moves (encodeElements ((name, v) :: rest) ++ [0]) after) :
    ∃ place start next, c.Moves [v.kind.tag] place ∧ place.Moves (cstringBytes name) start ∧
      start.Moves v.encode next ∧ next.Moves (encodeElements rest ++ [0]) after := by
  have bytes : encodeElements ((name, v) :: rest) ++ [0] =
      v.kind.tag :: (cstringBytes name ++ (v.encode ++ (encodeElements rest ++ [0]))) := by
    simp [encodeElements]
  rw [bytes] at moved
  obtain ⟨place, tagged, moved⟩ := moves_cons.mp moved
  obtain ⟨start, named, moved⟩ := moves_append.mp moved
  obtain ⟨next, valued, moved⟩ := moves_append.mp moved
  exact ⟨place, start, next, tagged, named, valued, moved⟩

section

variable {nested : Cursor → Outcome Document} {length : Int32} {offset fuel : Nat}
  {c place start next : Cursor} {name : String} {v : Value} (free : NulFree name)
  (tagged : c.Moves [v.kind.tag] place) (named : place.Moves (cstringBytes name) start)

include free tagged named

theorem readElements_refused {e : DecodeError}
    (refused : readValue nested v.kind.tag name start = (.error e, next)) :
    readElements nested length offset (fuel + 1) c = (.error e, next) := by
  unfold readElements
  dsimp only
  rw [readByte_exact.mpr tagged]
  dsimp only
  rw [if_neg (Kind.tag_ne_zero v.kind), readCString_exact.mpr ⟨free, named⟩]
  dsimp only
  rw [refused]

theorem readElements_passed {w : Value}
    (passed : readValue nested v.kind.tag name start = (.ok w, next))
    (room : next.index < offset + length.toInt.toNat) :
    readElements nested length offset (fuel + 1) c =
      match readElements nested length offset fuel next with
      | (.error e, c) => (.error e, c)
      | (.ok rest, c) => (.ok ((name, w) :: rest), c) := by
  conv => lhs; unfold readElements
  dsimp only
  rw [readByte_exact.mpr tagged]
  dsimp only
  rw [if_neg (Kind.tag_ne_zero v.kind), readCString_exact.mpr ⟨free, named⟩]
  dsimp only
  rw [passed]
  exact if_neg (Nat.not_le.mpr room)

end

theorem readElements_parts {nested : Cursor → Outcome Document} {length : Int32} {offset fuel : Nat}
    {c after : Cursor} {d : Document}
    (read : readElements nested length offset (fuel + 1) c = (.ok d, after)) :
    (d = [] ∧ c.readByte = (some 0, after) ∧ after.index = offset + length.toInt.toNat) ∨
      ∃ tag name v rest place start next, d = (name, v) :: rest ∧
        c.readByte = (some tag, place) ∧ place.readCString = (some name, start) ∧
        readValue nested tag name start = (.ok v, next) ∧
        readElements nested length offset fuel next = (.ok rest, after) := by
  unfold readElements at read
  dsimp only at read
  split at read
  · cases read
  · rename_i tag place tagged
    split at read
    · rename_i zero
      subst tag
      split at read
      · rename_i stopped
        cases read
        exact .inl ⟨rfl, tagged, stopped⟩
      · cases read
    · split at read
      · cases read
      · rename_i name start named
        split at read
        · cases read
        · rename_i v next valued
          split at read
          · cases read
          · split at read
            · cases read
            · rename_i rest last remaining
              cases read
              exact .inr ⟨tag, name, v, rest, place, start, next, rfl, tagged, named, valued,
                remaining⟩

section

variable {levels : Nat} {nested : Cursor → Outcome Document}
  (inner : ∀ {c d after}, nested c = (.ok d, after) ↔ WrittenDocument levels c d after)

include inner

theorem readValueOf_sound {kind : Kind} {c after : Cursor} {v : Value}
    (read : readValueOf nested kind c = (.ok v, after)) :
    v.kind = kind ∧ Written levels c v after := by
  unfold readValueOf at read
  dsimp only at read
  cases kind with
  | double =>
    obtain ⟨x, taken, rfl⟩ := Attempt.decoded_exact.mp read
    exact ⟨rfl, ⟨trivial, Nat.zero_le _, trivial, readDouble_exact.mp taken⟩⟩
  | string =>
    obtain ⟨s, taken, rfl⟩ := Attempt.decoded_exact.mp read
    obtain ⟨small, moved⟩ := readString_exact.mp taken
    exact ⟨rfl, ⟨trivial, Nat.zero_le _, small, moved⟩⟩
  | object =>
    dsimp only at read
    split at read
    · rename_i d place taken
      cases read
      obtain ⟨faithful, shallow, fits, moved⟩ := inner.mp taken
      exact ⟨rfl, ⟨faithful, shallow, fits, moved⟩⟩
    · cases read
  | array =>
    dsimp only at read
    split at read
    · rename_i d place taken
      cases read
      obtain ⟨faithful, shallow, fits, moved⟩ := inner.mp taken
      exact ⟨rfl, ⟨faithful, shallow, fits, moved⟩⟩
    · cases read
  | binData => exact readBinary_sound read
  | undefined =>
    cases read
    exact ⟨rfl, ⟨trivial, Nat.zero_le _, trivial, moves_nil.mpr rfl⟩⟩
  | objectId =>
    obtain ⟨id, taken, rfl⟩ := Attempt.decoded_exact.mp read
    exact ⟨rfl, ⟨trivial, Nat.zero_le _, trivial, readFixed_exact.mp taken⟩⟩
  | bool =>
    obtain ⟨b, taken, rfl⟩ := Attempt.decoded_exact.mp read
    exact ⟨rfl, ⟨trivial, Nat.zero_le _, trivial, readBool_exact.mp taken⟩⟩
  | date =>
    obtain ⟨t, taken, rfl⟩ := Attempt.decoded_exact.mp read
    exact ⟨rfl, ⟨trivial, Nat.zero_le _, trivial, readInt64_exact.mp taken⟩⟩
  | null =>
    cases read
    exact ⟨rfl, ⟨trivial, Nat.zero_le _, trivial, moves_nil.mpr rfl⟩⟩
  | regex => exact readRegex_sound read
  | int32 =>
    obtain ⟨n, taken, rfl⟩ := Attempt.decoded_exact.mp read
    exact ⟨rfl, ⟨trivial, Nat.zero_le _, trivial, readInt32_exact.mp taken⟩⟩
  | timestamp =>
    obtain ⟨n, taken, rfl⟩ := Attempt.decoded_exact.mp read
    have bits := (timestampBits_exact n _ _).mp ⟨rfl, rfl⟩
    refine ⟨rfl, ⟨trivial, Nat.zero_le _, trivial, ?_⟩⟩
    rw [Value.encode, bits]
    exact readUInt64_exact.mp taken
  | int64 =>
    obtain ⟨n, taken, rfl⟩ := Attempt.decoded_exact.mp read
    exact ⟨rfl, ⟨trivial, Nat.zero_le _, trivial, readInt64_exact.mp taken⟩⟩
  | decimal128 =>
    obtain ⟨x, taken, rfl⟩ := Attempt.decoded_exact.mp read
    exact ⟨rfl, ⟨trivial, Nat.zero_le _, trivial, readFixed_exact.mp taken⟩⟩

theorem readValueOf_complete {c after : Cursor} {v : Value} (written : Written levels c v after) :
    readValueOf nested v.kind c = (.ok v, after) := by
  obtain ⟨faithful, shallow, fits, moved⟩ := written
  unfold readValueOf
  cases v with
  | double x => exact Attempt.decoded_exact.mpr ⟨x, readDouble_exact.mpr moved, rfl⟩
  | string s => exact Attempt.decoded_exact.mpr ⟨s, readString_exact.mpr ⟨fits, moved⟩, rfl⟩
  | document d =>
    have taken := inner.mpr ⟨faithful, shallow, fits, moved⟩
    simp only [Value.kind, taken]
  | array d =>
    have taken := inner.mpr ⟨faithful, shallow, fits, moved⟩
    simp only [Value.kind, taken]
  | binary s bytes => exact readBinary_complete ⟨faithful, shallow, fits, moved⟩
  | undefined =>
    cases moves_nil.mp moved
    rfl
  | objectId id => exact Attempt.decoded_exact.mpr ⟨id, readFixed_exact.mpr moved, rfl⟩
  | bool b => exact Attempt.decoded_exact.mpr ⟨b, readBool_exact.mpr moved, rfl⟩
  | date t => exact Attempt.decoded_exact.mpr ⟨t, readInt64_exact.mpr moved, rfl⟩
  | null =>
    cases moves_nil.mp moved
    rfl
  | regex pattern options => exact readRegex_complete ⟨faithful, shallow, fits, moved⟩
  | int32 n => exact Attempt.decoded_exact.mpr ⟨n, readInt32_exact.mpr moved, rfl⟩
  | timestamp time increment =>
    obtain ⟨high, low⟩ := (timestampBits_exact (timestampBits time increment) _ _).mpr rfl
    refine Attempt.decoded_exact.mpr ⟨_, readUInt64_exact.mpr moved, ?_⟩
    rw [high, low]
  | int64 n => exact Attempt.decoded_exact.mpr ⟨n, readInt64_exact.mpr moved, rfl⟩
  | decimal128 x => exact Attempt.decoded_exact.mpr ⟨x, readFixed_exact.mpr moved, rfl⟩

theorem readValue_exact {tag : UInt8} {name : String} {c after : Cursor} {v : Value} :
    readValue nested tag name c = (.ok v, after) ↔
      v.kind.tag = tag ∧ Written levels c v after := by
  unfold readValue
  constructor
  · intro read
    split at read
    · rename_i k known
      obtain ⟨rfl, written⟩ := readValueOf_sound inner read
      exact ⟨Kind.ofTag?_exact.mp known, written⟩
    · cases read
  · intro parts
    obtain ⟨rfl, written⟩ := parts
    rw [Kind.ofTag?_tag]
    exact readValueOf_complete inner written

theorem readElements_sound {length : Int32} {offset fuel : Nat} {c after : Cursor} {d : Document}
    (read : readElements nested length offset fuel c = (.ok d, after)) :
    WrittenElements levels (offset + length.toInt.toNat) c d after := by
  induction fuel generalizing c d with
  | zero => cases read
  | succ fuel ih =>
    obtain ⟨rfl, tagged, stopped⟩ |
      ⟨tag, name, v, rest, place, start, next, rfl, tagged, named, valued, remaining⟩ :=
      readElements_parts read
    · exact ⟨trivial, Nat.zero_le _, by simp, readByte_exact.mp tagged, stopped⟩
    · obtain ⟨faithful, shallow, fits, moved, stopped⟩ := ih remaining
      obtain ⟨free, past⟩ := readCString_exact.mp named
      obtain ⟨rfl, written⟩ := (readValue_exact inner).mp valued
      refine ⟨⟨free, written.faithful, faithful⟩, max_le written.shallow shallow, ?_, ?_, stopped⟩
      · exact List.forall_mem_cons.mpr ⟨written.fits, fits⟩
      · have tail := past.trans (written.moved.trans moved)
        have whole := (readByte_exact.mp tagged).trans tail
        simpa [encodeElements] using whole

-- The fuel is the number of bytes ahead, of which each element takes some.
theorem readElements_complete {length : Int32} {offset fuel : Nat} {c after : Cursor} {d : Document}
    (enough : c.rest.length ≤ fuel)
    (written : WrittenElements levels (offset + length.toInt.toNat) c d after) :
    readElements nested length offset fuel c = (.ok d, after) := by
  induction d generalizing c fuel with
  | nil =>
    obtain ⟨-, -, -, moved, stopped⟩ := written
    have size := moved.length
    cases fuel with
    | zero => simp [encodeElements] at size; omega
    | succ fuel =>
      unfold readElements
      dsimp only
      rw [readByte_exact.mpr moved]
      simp [stopped]
  | cons element rest ih =>
    obtain ⟨name, v⟩ := element
    obtain ⟨⟨free, faithful, others⟩, shallow, fits, moved, stopped⟩ := written
    obtain ⟨place, start, next, tagged, named, valued, moved⟩ := moves_element moved
    rw [nesting] at shallow
    have written : Written levels start v next :=
      ⟨faithful, le_trans (le_max_left _ _) shallow, fits _ List.mem_cons_self, valued⟩
    have remaining : WrittenElements levels (offset + length.toInt.toNat) next rest after :=
      ⟨others, le_trans (le_max_right _ _) shallow,
        fun element member => fits element (List.mem_cons_of_mem _ member), moved, stopped⟩
    have room : next.index < offset + length.toInt.toNat := by
      rw [← stopped, moved.behind, List.length_append, List.length_singleton]
      omega
    have first := tagged.length
    have second := named.length
    have third := valued.length
    rw [List.length_singleton] at first
    cases fuel with
    | zero => omega
    | succ fuel =>
      have passed : readValue nested v.kind.tag name start = (.ok v, next) :=
        (readValue_exact inner).mpr ⟨rfl, written⟩
      rw [readElements_passed free tagged named passed room, ih (by omega) remaining]

end

theorem element_length {d : Document} {element : String × Value} (member : element ∈ d) :
    element.2.encode.length ≤ (encodeElements d).length := by
  induction d with
  | nil => cases member
  | cons first rest ih =>
    simp only [encodeElements, List.length_append, List.length_cons]
    rcases List.mem_cons.mp member with rfl | later
    · omega
    · have := ih later
      omega

theorem readNested_header {levels : Nat} {c after : Cursor} {d : Document}
    (fits : d.encode.length < 2 ^ 31) (moved : c.Moves d.encode after) :
    ∃ length place, readNested (levels + 1) c =
        readElements (readNested levels) length c.index place.remaining place ∧
      after.index = c.index + length.toInt.toNat ∧ place.index = c.index + 4 ∧
      place.Moves (encodeElements d ++ [0]) after := by
  have total := moved.length
  have behind := moved.behind
  rw [Document.encode, framed_length] at fits total behind
  obtain ⟨field, value⟩ := lengthBytes_eq_int32Bytes fits
  rw [Document.encode, framed, field, List.append_assoc] at moved
  obtain ⟨place, counted, elements⟩ := moves_append.mp moved
  have four : (int32Bytes (Int32.ofNat ((encodeElements d).length + 5))).length = 4 :=
    littleEndian_length 4 _
  refine ⟨Int32.ofNat ((encodeElements d).length + 5), place, ?_, ?_, ?_, elements⟩
  · have inside : ¬((Int32.ofNat ((encodeElements d).length + 5)).toInt < 5 ∨
        c.remaining < (Int32.ofNat ((encodeElements d).length + 5)).toInt.toNat) := by
      rw [value, Cursor.remaining]
      omega
    conv => lhs; unfold readNested
    rw [readInt32_exact.mpr counted]
    dsimp only
    rw [if_neg inside]
  · rw [value, Int.toNat_natCast, behind]
  · rw [counted.behind, four]

theorem readNested_exact {levels : Nat} {c after : Cursor} {d : Document} :
    readNested levels c = (.ok d, after) ↔ WrittenDocument levels c d after := by
  induction levels generalizing c d after with
  | zero =>
    constructor
    · intro read
      cases read
    · intro written
      exact absurd written.shallow (Nat.not_lt_zero _)
  | succ levels ih =>
    constructor
    · intro read
      unfold readNested at read
      split at read
      · cases read
      · rename_i length place counted
        split at read
        · cases read
        · rename_i inside
          have sound := readElements_sound ih read
          have field := readInt32_exact.mp counted
          have bound := length.toInt_lt
          have four : (int32Bytes length).length = 4 := littleEndian_length 4 _
          have ahead := sound.moved.behind
          rw [sound.stopped, field.behind, four, List.length_append, List.length_singleton] at ahead
          have size : (encodeElements d).length + 5 = length.toInt.toNat := by omega
          refine ⟨sound.faithful, Nat.lt_succ_of_le sound.shallow, ?_, ?_⟩
          · rw [Document.encode, framed_length]
            omega
          · rw [Document.encode, framed, size, lengthBytes_toNat (by omega), List.append_assoc]
            exact field.trans sound.moved
    · intro parts
      obtain ⟨faithful, shallow, fits, moved⟩ := parts
      have small : (encodeElements d).length + 5 < 2 ^ 31 := by
        rwa [Document.encode, framed_length] at fits
      obtain ⟨length, place, same, stopped, -, elements⟩ := readNested_header fits moved
      rw [same]
      apply readElements_complete ih (Nat.le_refl _)
      refine ⟨faithful, Nat.le_of_lt_succ shallow, ?_, elements, stopped⟩
      intro element member
      have := element_length member
      exact Value.fits_of_length (by omega)

end WireSchema.Bson
