import WireSchema.Bson.Cursor
import WireSchema.Proofs.Bson.Bytes

namespace WireSchema.Bson

namespace Cursor

structure Moves (c : Cursor) (bytes : List UInt8) (after : Cursor) : Prop where
  ahead : c.rest = bytes ++ after.rest
  behind : after.index = c.index + bytes.length

theorem moves_nil {c after : Cursor} : c.Moves [] after ↔ c = after := by
  constructor
  · intro parts
    obtain ⟨ahead, behind⟩ := parts
    cases c
    cases after
    simp_all
  · intro equal
    cases equal
    exact ⟨rfl, rfl⟩

theorem moves_over (index : Nat) (bytes rest : List UInt8) :
    Moves ⟨index, bytes ++ rest⟩ bytes ⟨index + bytes.length, rest⟩ :=
  ⟨rfl, rfl⟩

theorem Moves.trans {c middle after : Cursor} {first second : List UInt8}
    (left : c.Moves first middle) (right : middle.Moves second after) :
    c.Moves (first ++ second) after := by
  refine ⟨?_, ?_⟩
  · rw [left.ahead, right.ahead, List.append_assoc]
  · rw [right.behind, left.behind, List.length_append, Nat.add_assoc]

theorem moves_append {c after : Cursor} {first second : List UInt8} :
    c.Moves (first ++ second) after ↔
      ∃ middle, c.Moves first middle ∧ middle.Moves second after := by
  constructor
  · intro parts
    obtain ⟨ahead, behind⟩ := parts
    refine ⟨⟨c.index + first.length, second ++ after.rest⟩, ⟨?_, rfl⟩, ⟨rfl, ?_⟩⟩
    · rw [ahead, List.append_assoc]
    · rw [behind, List.length_append, Nat.add_assoc]
  · intro parts
    obtain ⟨middle, left, right⟩ := parts
    exact left.trans right

theorem moves_cons {c after : Cursor} {b : UInt8} {bytes : List UInt8} :
    c.Moves (b :: bytes) after ↔ ∃ middle, c.Moves [b] middle ∧ middle.Moves bytes after := by
  rw [← moves_append, List.singleton_append]

theorem Moves.length {c after : Cursor} {bytes : List UInt8} (moved : c.Moves bytes after) :
    c.rest.length = bytes.length + after.rest.length := by
  rw [moved.ahead, List.length_append]

theorem Moves.unique {c first second : Cursor} {bytes others : List UInt8}
    (left : c.Moves bytes first) (right : c.Moves others second)
    (size : bytes.length = others.length) : bytes = others ∧ first = second := by
  have ahead : bytes ++ first.rest = others ++ second.rest := left.ahead.symm.trans right.ahead
  obtain ⟨same, rest⟩ := List.append_inj ahead size
  refine ⟨same, ?_⟩
  have index : first.index = second.index := by rw [left.behind, right.behind, size]
  cases first
  cases second
  simp_all

theorem readByte_exact {c after : Cursor} {b : UInt8} :
    c.readByte = (some b, after) ↔ c.Moves [b] after := by
  unfold readByte
  cases ahead : c.rest with
  | nil =>
    constructor
    · intro read
      cases read
    · intro moved
      have := moved.ahead
      simp [ahead] at this
  | cons first rest =>
    constructor
    · intro read
      cases read
      exact ⟨ahead, rfl⟩
    · intro parts
      obtain ⟨same, behind⟩ := parts
      rw [ahead] at same
      cases same
      cases after
      simp_all

theorem readBytes_exact {c after : Cursor} {n : Nat} {bytes : List UInt8} :
    c.readBytes n = (some bytes, after) ↔ bytes.length = n ∧ c.Moves bytes after := by
  unfold readBytes
  split
  · rename_i enough
    have taken : (c.rest.take n).length = n := by rw [List.length_take]; omega
    have moved : c.Moves (c.rest.take n) (c.advance n) :=
      ⟨(List.take_append_drop n c.rest).symm, by rw [taken]; rfl⟩
    constructor
    · intro read
      cases read
      exact ⟨taken, moved⟩
    · intro parts
      obtain ⟨size, other⟩ := parts
      obtain ⟨same, place⟩ := moved.unique other (taken.trans size.symm)
      rw [same, place]
  · rename_i short
    constructor
    · intro read
      cases read
    · intro parts
      obtain ⟨size, moved⟩ := parts
      have := moved.length
      omega

theorem mapRead_exact {α β : Type} {f : α → β} {attempt : Attempt α} {b : β} {after : Cursor} :
    mapRead f attempt = (some b, after) ↔ ∃ a, attempt = (some a, after) ∧ f a = b := by
  obtain ⟨result, place⟩ := attempt
  cases result with
  | none => simp [mapRead]
  | some a =>
    simp only [mapRead, Option.map_some, Prod.mk.injEq, Option.some.injEq]
    constructor
    · intro parts
      obtain ⟨rfl, rfl⟩ := parts
      exact ⟨a, ⟨rfl, rfl⟩, rfl⟩
    · intro parts
      obtain ⟨_, ⟨rfl, rfl⟩, rfl⟩ := parts
      exact ⟨rfl, rfl⟩

theorem readWord_exact {α : Type} {width : Nat} {ofBytes : List UInt8 → α} {toBytes : α → List UInt8}
    (inverse : ∀ bytes a, bytes.length = width ∧ ofBytes bytes = a ↔ bytes = toBytes a)
    {c after : Cursor} {a : α} :
    mapRead ofBytes (c.readBytes width) = (some a, after) ↔ c.Moves (toBytes a) after := by
  rw [mapRead_exact]
  constructor
  · intro parts
    obtain ⟨bytes, read, value⟩ := parts
    obtain ⟨size, moved⟩ := readBytes_exact.mp read
    rwa [(inverse bytes a).mp ⟨size, value⟩] at moved
  · intro moved
    obtain ⟨size, value⟩ := (inverse (toBytes a) a).mpr rfl
    exact ⟨toBytes a, readBytes_exact.mpr ⟨size, moved⟩, value⟩

theorem readInt32_exact {c after : Cursor} {n : Int32} :
    c.readInt32 = (some n, after) ↔ c.Moves (int32Bytes n) after :=
  readWord_exact int32_exact

theorem readInt64_exact {c after : Cursor} {n : Int64} :
    c.readInt64 = (some n, after) ↔ c.Moves (int64Bytes n) after :=
  readWord_exact int64_exact

theorem readUInt64_exact {c after : Cursor} {n : UInt64} :
    c.readUInt64 = (some n, after) ↔ c.Moves (uint64Bytes n) after :=
  readWord_exact uint64_exact

theorem readDouble_exact {c after : Cursor} {x : Double} :
    c.readDouble = (some x, after) ↔ c.Moves (uint64Bytes x.bits) after := by
  apply readWord_exact
  intro bytes y
  rw [← uint64_exact]
  cases y
  simp

theorem readFixed_exact {n : Nat} {c after : Cursor} {a : { bytes : List UInt8 // bytes.length = n }} :
    c.readFixed n = (some a, after) ↔ c.Moves a.val after := by
  have same : c.readFixed n = (some a, after) ↔ c.readBytes n = (some a.val, after) := by
    unfold readFixed readBytes
    split <;> simp [Subtype.ext_iff]
  rw [same, readBytes_exact]
  exact and_iff_right a.property

theorem readBool_exact {c after : Cursor} {b : Bool} :
    c.readBool = (some b, after) ↔ c.Moves [boolByte b] after := by
  rw [← readByte_exact]
  unfold readBool
  obtain ⟨result, place⟩ := c.readByte
  cases result with
  | none => simp
  | some byte =>
    dsimp only
    simp only [Prod.mk.injEq, Option.some.injEq]
    apply and_congr_left
    intro _
    cases b <;> by_cases zero : byte = 0 <;> by_cases one : byte = 1 <;> simp_all [boolByte]

theorem scan_exact {bytes text rest : List UInt8} :
    bytes.takeWhile (· != 0) = text ∧ text.length < bytes.length ∧
        bytes.drop (text.length + 1) = rest ↔
      0 ∉ text ∧ bytes = text ++ 0 :: rest := by
  induction bytes generalizing text with
  | nil => simp
  | cons b bytes ih =>
    by_cases zero : b = 0
    · subst b
      cases text with
      | nil => simp
      | cons a text =>
        simp only [List.takeWhile_cons, List.mem_cons, List.cons_append, List.cons.injEq]
        grind
    · have kept : ∀ xs : List UInt8, (b :: xs).takeWhile (· != 0) = b :: xs.takeWhile (· != 0) := by
        intro xs
        simp [zero]
      rw [kept]
      cases text with
      | nil => simp [zero]
      | cons a text =>
        have inner := @ih text
        simp only [List.cons.injEq, List.length_cons, Nat.add_lt_add_iff_right, List.drop_succ_cons,
          List.mem_cons, not_or, List.cons_append] at inner ⊢
        constructor
        · intro parts
          obtain ⟨⟨rfl, scanned⟩, inside, left⟩ := parts
          obtain ⟨clean, whole⟩ := inner.mp ⟨scanned, inside, left⟩
          exact ⟨⟨Ne.symm zero, clean⟩, rfl, whole⟩
        · intro parts
          obtain ⟨⟨_, clean⟩, rfl, whole⟩ := parts
          obtain ⟨scanned, inside, left⟩ := inner.mpr ⟨clean, whole⟩
          exact ⟨⟨rfl, scanned⟩, inside, left⟩

theorem readCString_exact {c after : Cursor} {s : String} :
    c.readCString = (some s, after) ↔ NulFree s ∧ c.Moves (cstringBytes s) after := by
  unfold readCString
  dsimp only
  constructor
  · intro read
    split at read
    · rename_i inside
      obtain ⟨text, rfl⟩ := Prod.mk.inj read
      have bytes := (textOfBytes?_exact _ _).mp text
      obtain ⟨clean, whole⟩ := scan_exact.mp ⟨rfl, inside, rfl⟩
      rw [bytes] at clean whole
      refine ⟨(nulFree_iff s).mpr clean, ⟨?_, ?_⟩⟩
      · simpa [cstringBytes, advance, bytes] using whole
      · simp [cstringBytes, advance, bytes]
    · cases read
  · intro parts
    obtain ⟨free, moved⟩ := parts
    have ahead : c.rest = textBytes s ++ 0 :: after.rest := by
      rw [moved.ahead, cstringBytes, List.append_assoc, List.singleton_append]
    obtain ⟨scanned, inside, left⟩ := scan_exact.mpr ⟨(nulFree_iff s).mp free, ahead⟩
    have behind : c.advance ((textBytes s).length + 1) = after := by
      have place := moved.behind
      rw [cstringBytes, List.length_append, List.length_singleton] at place
      rw [advance, left, ← place]
    rw [scanned, if_pos inside, behind, (textOfBytes?_exact _ s).mpr rfl]

theorem getLast_zero {bytes text : List UInt8} :
    bytes.getLast? = some 0 ∧ bytes.dropLast = text ↔ bytes = text ++ [0] := by
  constructor
  · intro parts
    obtain ⟨last, rfl⟩ := parts
    obtain ⟨front, rfl⟩ := List.getLast?_eq_some_iff.mp last
    simp
  · intro equal
    cases equal
    simp

theorem readString_exact {c after : Cursor} {s : String} :
    c.readString = (some s, after) ↔
      (textBytes s).length + 1 < 2 ^ 31 ∧ c.Moves (stringBytes s) after := by
  unfold readString
  constructor
  · intro read
    split at read
    · cases read
    · rename_i length middle counted
      split at read
      · cases read
      · rename_i positive
        split at read
        · cases read
        · rename_i bytes place taken
          obtain ⟨text, rfl⟩ := Prod.mk.inj read
          split at text
          · rename_i last
            have front := (textOfBytes?_exact _ _).mp text
            have whole := getLast_zero.mp ⟨last, front⟩
            obtain ⟨size, moved⟩ := readBytes_exact.mp taken
            have bound := length.toInt_lt
            rw [whole, List.length_append, List.length_singleton] at size
            refine ⟨by omega, ?_⟩
            rw [stringBytes, size, lengthBytes_toNat (by omega), cstringBytes, ← whole]
            exact (readInt32_exact.mp counted).trans moved
          · cases text
  · intro parts
    obtain ⟨small, moved⟩ := parts
    obtain ⟨field, value⟩ := lengthBytes_eq_int32Bytes small
    rw [stringBytes, field] at moved
    obtain ⟨middle, counted, taken⟩ := moves_append.mp moved
    rw [readInt32_exact.mpr counted]
    dsimp only
    have positive : ¬ (Int32.ofNat ((textBytes s).length + 1)).toInt < 1 := by omega
    have size : (cstringBytes s).length = (Int32.ofNat ((textBytes s).length + 1)).toInt.toNat := by
      rw [cstringBytes, List.length_append, List.length_singleton, value]
      omega
    obtain ⟨last, front⟩ := getLast_zero.mpr (show cstringBytes s = textBytes s ++ [0] from rfl)
    rw [if_neg positive, readBytes_exact.mpr ⟨size, taken⟩]
    dsimp only
    rw [if_pos last, front, (textOfBytes?_exact _ s).mpr rfl]

end Cursor

end WireSchema.Bson
