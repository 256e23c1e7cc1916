import Mathlib.Algebra.Order.Ring.Nat
import WireSchema.Bson.Bytes

namespace WireSchema.Bson

theorem littleEndian_length (width n : Nat) : (littleEndian width n).length = width := by
  induction width generalizing n with
  | zero => rfl
  | succ width ih => simp [littleEndian, ih]

theorem ofLittleEndian_littleEndian (width n : Nat) :
    ofLittleEndian (littleEndian width n) = n % 256 ^ width := by
  induction width generalizing n with
  | zero => simp [littleEndian, ofLittleEndian, Nat.mod_one]
  | succ width ih =>
    have low : (UInt8.ofNat n).toNat = n % 256 := by simp
    rw [littleEndian, ofLittleEndian, ih, low, pow_succ', Nat.mod_mul]

theorem littleEndian_ofLittleEndian (bytes : List UInt8) :
    littleEndian bytes.length (ofLittleEndian bytes) = bytes := by
  induction bytes with
  | nil => rfl
  | cons b rest ih =>
    have small := b.toNat_lt
    have low : UInt8.ofNat (b.toNat + 256 * ofLittleEndian rest) = b := by
      apply UInt8.toNat_inj.mp
      rw [UInt8.toNat_ofNat']
      omega
    have high : (b.toNat + 256 * ofLittleEndian rest) / 256 = ofLittleEndian rest := by omega
    rw [List.length_cons, ofLittleEndian, littleEndian, low, high, ih]

theorem ofLittleEndian_lt (bytes : List UInt8) : ofLittleEndian bytes < 256 ^ bytes.length := by
  induction bytes with
  | nil => simp [ofLittleEndian]
  | cons b rest ih =>
    have small := b.toNat_lt
    rw [ofLittleEndian, List.length_cons, pow_succ']
    omega

theorem word_exact {width n : Nat} (small : n < 256 ^ width) (bytes : List UInt8) :
    bytes.length = width ∧ ofLittleEndian bytes = n ↔ bytes = littleEndian width n := by
  constructor
  · intro parts
    obtain ⟨rfl, rfl⟩ := parts
    exact (littleEndian_ofLittleEndian bytes).symm
  · intro equal
    cases equal
    exact ⟨littleEndian_length width n,
      (ofLittleEndian_littleEndian width n).trans (Nat.mod_eq_of_lt small)⟩

theorem uint64_exact (bytes : List UInt8) (n : UInt64) :
    bytes.length = 8 ∧ uint64OfBytes bytes = n ↔ bytes = uint64Bytes n := by
  rw [uint64Bytes, ← word_exact (show n.toNat < 256 ^ 8 from n.toNat_lt)]
  apply and_congr_right
  intro eight
  have small := ofLittleEndian_lt bytes
  rw [eight] at small
  rw [uint64OfBytes, ← UInt64.toNat_inj, UInt64.toNat_ofNat_of_lt' small]

theorem int64_exact (bytes : List UInt8) (n : Int64) :
    bytes.length = 8 ∧ int64OfBytes bytes = n ↔ bytes = int64Bytes n := by
  have same : int64OfBytes bytes = n ↔ uint64OfBytes bytes = n.toUInt64 := by
    rw [int64OfBytes, uint64OfBytes]
    constructor
    · intro equal
      cases equal
      simp
    · intro read
      rw [read, Int64.toInt64_toUInt64]
  rw [same, uint64_exact]
  rfl

theorem int32_exact (bytes : List UInt8) (n : Int32) :
    bytes.length = 4 ∧ int32OfBytes bytes = n ↔ bytes = int32Bytes n := by
  rw [int32Bytes, ← word_exact (show n.toUInt32.toNat < 256 ^ 4 from n.toUInt32.toNat_lt)]
  apply and_congr_right
  intro four
  have small := ofLittleEndian_lt bytes
  rw [four] at small
  rw [int32OfBytes, ← UInt32.toNat_ofNat_of_lt' small, UInt32.toNat_inj, UInt32.ofNat_toNat]
  constructor
  · intro equal
    cases equal
    simp
  · intro read
    rw [read, Int32.toInt32_toUInt32]

theorem int32Bytes_ofNat (n : Nat) : int32Bytes (Int32.ofNat n) = lengthBytes n := by
  have word : int32OfBytes (lengthBytes n) = Int32.ofNat n := by
    have wrapped : UInt32.ofNat (n % 256 ^ 4) = UInt32.ofNat n := UInt32.ofNat_mod_size
    rw [int32OfBytes, lengthBytes, ofLittleEndian_littleEndian, wrapped]
    exact UInt32.toInt32_ofNat'
  exact ((int32_exact _ _).mp ⟨littleEndian_length 4 n, word⟩).symm

-- A length field is a signed word on the way in: it counts up to the half only.
theorem lengthBytes_eq_int32Bytes {n : Nat} (small : n < 2 ^ 31) :
    lengthBytes n = int32Bytes (Int32.ofNat n) ∧ (Int32.ofNat n).toInt = n :=
  ⟨(int32Bytes_ofNat n).symm, Int32.toInt_ofNat_of_lt small⟩

theorem lengthBytes_toNat {n : Int32} (counts : 0 ≤ n.toInt) :
    lengthBytes n.toInt.toNat = int32Bytes n := by
  have bound := n.toInt_lt
  have small : n.toInt.toNat < 2 ^ 31 := by omega
  have same : Int32.ofNat n.toInt.toNat = n := by
    apply Int32.toInt_inj.mp
    rw [(lengthBytes_eq_int32Bytes small).2]
    omega
  rw [(lengthBytes_eq_int32Bytes small).1, same]

theorem textOfBytes?_exact (bytes : List UInt8) (s : String) :
    textOfBytes? bytes = some s ↔ bytes = textBytes s := by
  unfold textOfBytes? String.fromUTF8? textBytes
  constructor
  · intro read
    split at read
    · cases read
      simp [String.fromUTF8]
    · cases read
  · intro equal
    cases equal
    simp [s.isValidUTF8, String.fromUTF8]

def NulFree (s : String) : Prop :=
  '\x00' ∉ s.toList

instance (s : String) : Decidable (NulFree s) :=
  inferInstanceAs (Decidable (¬_))

theorem textBytes_flatMap (s : String) : textBytes s = s.toList.flatMap String.utf8EncodeChar := by
  rw [textBytes, String.toUTF8_eq_toByteArray, ← String.utf8Encode_toList, List.utf8Encode,
    List.toList_data_toByteArray]

-- Every byte of a longer form has its high bit set, so a zero byte is the NUL itself.
theorem zero_mem_utf8EncodeChar (c : Char) : 0 ∈ String.utf8EncodeChar c ↔ c = '\x00' := by
  have marked (n : Nat) (low : 128 ≤ n) (high : n < 256) : (0 : UInt8) ≠ UInt8.ofNat n := by
    intro zero
    have := congrArg UInt8.toNat zero
    rw [UInt8.toNat_ofNat'] at this
    simp at this
    omega
  constructor
  · intro member
    unfold String.utf8EncodeChar at member
    dsimp only at member
    split at member
    · rename_i short
      have zero := congrArg UInt8.toNat (List.mem_singleton.mp member)
      rw [UInt8.toNat_ofNat_of_lt' (Nat.lt_of_le_of_lt short (by decide))] at zero
      apply Char.ext
      apply UInt32.toNat_inj.mp
      exact zero.symm
    · exfalso
      split at member
      · simp only [List.mem_cons, List.not_mem_nil, or_false] at member
        rcases member with first | second
        · exact marked _ (by omega) (by omega) first
        · exact marked _ (by omega) (by omega) second
      · split at member
        · simp only [List.mem_cons, List.not_mem_nil, or_false] at member
          rcases member with first | second | third
          · exact marked _ (by omega) (by omega) first
          · exact marked _ (by omega) (by omega) second
          · exact marked _ (by omega) (by omega) third
        · simp only [List.mem_cons, List.not_mem_nil, or_false] at member
          rcases member with first | second | third | fourth
          · exact marked _ (by omega) (by omega) first
          · exact marked _ (by omega) (by omega) second
          · exact marked _ (by omega) (by omega) third
          · exact marked _ (by omega) (by omega) fourth
  · intro equal
    cases equal
    decide

theorem nulFree_iff (s : String) : NulFree s ↔ 0 ∉ textBytes s := by
  rw [NulFree, textBytes_flatMap, List.mem_flatMap]
  simp only [zero_mem_utf8EncodeChar]
  simp

end WireSchema.Bson
