import WireSchema.Bson.Decoding
import WireSchema.Bson.Encoding
import WireSchema.Proofs.Bson.Bytes

namespace WireSchema.Bson

-- A name or a pattern must not hold the NUL that ends it, a subtype must be the one that its byte
-- stands for, the whole must be small enough for a signed length, and documents and arrays must not
-- nest too deeply. Names may repeat, and the keys of an array may be anything.

def Subtype.Canonical : Subtype → Prop
  | .userDefined byte => 7 ≤ byte
  | _ => True

instance : (s : Subtype) → Decidable s.Canonical
  | .userDefined byte => inferInstanceAs (Decidable (7 ≤ byte))
  | .generic | .function | .binaryOld | .uuidOld | .uuid | .md5 | .encrypt => isTrue trivial

theorem Subtype.ofByte_exact (byte : UInt8) (s : Subtype) :
    Subtype.ofByte byte = s ↔ s.Canonical ∧ s.toByte = byte := by
  constructor
  · intro equal
    cases equal
    unfold Subtype.ofByte
    split_ifs with h0 h1 h2 h3 h4 h5 h6
    case neg =>
      refine ⟨?_, rfl⟩
      rw [Subtype.Canonical, UInt8.le_iff_toNat_le]
      simp only [← UInt8.toNat_inj] at h0 h1 h2 h3 h4 h5 h6
      simp at h0 h1 h2 h3 h4 h5 h6 ⊢
      omega
    all_goals exact ⟨trivial, Eq.symm ‹_›⟩
  · intro parts
    obtain ⟨canonical, rfl⟩ := parts
    cases s with
    | userDefined byte =>
      have low : ∀ small : UInt8, small < 7 → byte ≠ small := by
        rintro small below rfl
        exact absurd (UInt8.lt_of_lt_of_le below canonical) (UInt8.lt_irrefl byte)
      simp [Subtype.ofByte, Subtype.toByte, low]
    | _ => rfl

mutual

def Value.Faithful : Value → Prop
  | .document d => ElementsFaithful d
  | .array d => ElementsFaithful d
  | .binary s _ => s.Canonical
  | .regex pattern options => NulFree pattern ∧ NulFree options
  | _ => True

def ElementsFaithful : List (String × Value) → Prop
  | [] => True
  | (name, v) :: rest => NulFree name ∧ v.Faithful ∧ ElementsFaithful rest

end

mutual

def Value.decideFaithful : (v : Value) → Decidable v.Faithful
  | .document d => decideElements d
  | .array d => decideElements d
  | .binary s _ => inferInstanceAs (Decidable s.Canonical)
  | .regex pattern options => inferInstanceAs (Decidable (NulFree pattern ∧ NulFree options))
  | .double _ | .string _ | .undefined | .objectId _ | .bool _ | .date _ | .null | .int32 _
  | .timestamp _ _ | .int64 _ | .decimal128 _ => isTrue trivial

def decideElements : (d : List (String × Value)) → Decidable (ElementsFaithful d)
  | [] => isTrue trivial
  | (name, v) :: rest =>
    have := v.decideFaithful
    have := decideElements rest
    inferInstanceAs (Decidable (NulFree name ∧ v.Faithful ∧ ElementsFaithful rest))

end

instance (d : Document) : Decidable (ElementsFaithful d) := decideElements d

mutual

def Value.depth : Value → Nat
  | .document d => nesting d + 1
  | .array d => nesting d + 1
  | _ => 0

def nesting : List (String × Value) → Nat
  | [] => 0
  | (_, v) :: rest => max v.depth (nesting rest)

end

structure Document.Encodable (d : Document) : Prop where
  faithful : ElementsFaithful d
  shallow : nesting d ≤ maxNesting
  fits : d.encode.length < 2 ^ 31

instance (d : Document) : Decidable d.Encodable :=
  decidable_of_iff (ElementsFaithful d ∧ nesting d ≤ maxNesting ∧ d.encode.length < 2 ^ 31)
    ⟨fun ⟨faithful, shallow, fits⟩ => ⟨faithful, shallow, fits⟩,
      fun encodable => ⟨encodable.faithful, encodable.shallow, encodable.fits⟩⟩

def Value.Fits : Value → Prop
  | .string s => (textBytes s).length + 1 < 2 ^ 31
  | .binary _ bytes => bytes.length < 2 ^ 31
  | .document d => (Document.encode d).length < 2 ^ 31
  | .array d => (Document.encode d).length < 2 ^ 31
  | _ => True

theorem Value.fits_of_length {v : Value} (small : v.encode.length < 2 ^ 31) : v.Fits := by
  cases v with
  | string s =>
    simp only [Value.encode, stringBytes, cstringBytes, List.length_append, lengthBytes,
      littleEndian_length, List.length_singleton] at small
    show (textBytes s).length + 1 < 2 ^ 31
    omega
  | binary s bytes =>
    simp only [Value.encode, List.length_append, lengthBytes, littleEndian_length,
      List.length_cons] at small
    show bytes.length < 2 ^ 31
    omega
  | document d =>
    rw [Value.encode] at small
    exact small
  | array d =>
    rw [Value.encode] at small
    exact small
  | _ => trivial

theorem framed_length (elements : List UInt8) : (framed elements).length = elements.length + 5 := by
  simp only [framed, lengthBytes, List.length_append, littleEndian_length, List.length_singleton]
  omega

theorem nulFree_toString (n : Nat) : NulFree (toString n) := by
  intro member
  rw [Nat.toString_eq_repr, Nat.repr, String.toList_ofList] at member
  exact absurd (Nat.isDigit_of_mem_toDigits (by decide) (by decide) member) (by decide)

theorem faithful_keyedFrom {items : List Value} (start : Nat) (each : ∀ v ∈ items, v.Faithful) :
    ElementsFaithful (keyedFrom start items) := by
  induction items generalizing start with
  | nil => trivial
  | cons v items ih =>
    obtain ⟨first, others⟩ := List.forall_mem_cons.mp each
    exact ⟨nulFree_toString start, first, ih (start + 1) others⟩

theorem nesting_keyedFrom {items : List Value} {bound : Nat} (start : Nat)
    (each : ∀ v ∈ items, v.depth ≤ bound) : nesting (keyedFrom start items) ≤ bound := by
  induction items generalizing start with
  | nil => exact Nat.zero_le bound
  | cons v items ih =>
    obtain ⟨first, others⟩ := List.forall_mem_cons.mp each
    exact max_le first (ih (start + 1) others)

end WireSchema.Bson
