import WireSchema.Proofs.Bson.Nesting

namespace WireSchema.Bson

-- A document that is read as a value is taken for an element of some document around it, so it is
-- read with one level less than a document on its own.

def TooDeep {α : Type} (outcome : Outcome α) : Prop :=
  ∃ offset place, outcome = (.error (.tooDeep maxNesting offset), place)

section

variable {nested more : Cursor → Outcome Document}
  (fewer : ∀ c, nested c = more c ∨ TooDeep (nested c))

include fewer

theorem readValue_fewer (tag : UInt8) (field : String) (c : Cursor) :
    readValue nested tag field c = readValue more tag field c ∨
      TooDeep (readValue nested tag field c) := by
  unfold readValue
  cases Kind.ofTag? tag with
  | none => exact .inl rfl
  | some kind =>
    cases kind with
    | object | array =>
      rcases fewer c with same | ⟨offset, place, failed⟩
      · exact .inl (by simp only [readValueOf, same])
      · exact .inr ⟨offset, place, by simp only [readValueOf, failed]⟩
    | _ => exact .inl rfl

theorem readElements_fewer (length : Int32) (offset fuel : Nat) (c : Cursor) :
    readElements nested length offset fuel c = readElements more length offset fuel c ∨
      TooDeep (readElements nested length offset fuel c) := by
  induction fuel generalizing c with
  | zero => exact .inl rfl
  | succ fuel ih =>
    unfold readElements
    dsimp only
    cases c.readByte with
    | mk tag place =>
      cases tag with
      | none => exact .inl rfl
      | some tag =>
        dsimp only
        split
        · exact .inl rfl
        · cases place.readCString with
          | mk name start =>
            cases name with
            | none => exact .inl rfl
            | some name =>
              dsimp only
              rcases readValue_fewer fewer tag name start with same | ⟨offset, stop, failed⟩
              · rw [same]
                cases readValue more tag name start with
                | mk value next =>
                  cases value with
                  | error e => exact .inl rfl
                  | ok v =>
                    dsimp only
                    split
                    · exact .inl rfl
                    · rcases ih next with same | ⟨offset, stop, failed⟩
                      · exact .inl (by rw [same])
                      · exact .inr ⟨offset, stop, by rw [failed]⟩
              · exact .inr ⟨offset, stop, by rw [failed]⟩

end

theorem readNested_fewer (levels : Nat) (c : Cursor) :
    readNested levels c = readNested (levels + 1) c ∨ TooDeep (readNested levels c) := by
  induction levels generalizing c with
  | zero => exact .inr ⟨c.index, c, rfl⟩
  | succ levels ih =>
    unfold readNested
    split
    · exact .inl rfl
    · split
      · exact .inl rfl
      · exact readElements_fewer ih ..

namespace Value

variable {field : String} {c after : Cursor} {d : Document}

theorem read_object : Value.read Kind.object.tag field c =
    match readNested maxNesting c with
    | (.ok d, after) => (.ok (.document d), after)
    | (.error e, after) => (.error e, after) := by
  rw [Value.read, readValue, Kind.ofTag?_tag]
  rfl

theorem read_object_shallow (read : Document.read c = (.ok d, after))
    (shallow : nesting d < maxNesting) :
    Value.read Kind.object.tag field c = (.ok (.document d), after) := by
  obtain ⟨faithful, -, fits, moved⟩ := readNested_exact.mp read
  rw [read_object, readNested_exact.mpr ⟨faithful, shallow, fits, moved⟩]

theorem read_object_deep (field : String) (read : Document.read c = (.ok d, after))
    (deep : maxNesting ≤ nesting d) :
    ∃ first place, IsLeast (starts d maxNesting) first ∧
      Value.read Kind.object.tag field c =
        (.error (.tooDeep maxNesting (c.index + first)), place) := by
  obtain ⟨faithful, -, fits, moved⟩ := readNested_exact.mp read
  obtain ⟨first, place, least, failed⟩ := readNested_tooDeep ⟨faithful, fits⟩ moved deep
  exact ⟨first, place, least, by rw [read_object, failed]⟩

theorem read_object_error {e : DecodeError} (read : Document.read c = (.error e, after)) :
    Value.read Kind.object.tag field c = (.error e, after) ∨
      TooDeep (Value.read Kind.object.tag field c) := by
  rw [read_object]
  rcases readNested_fewer maxNesting c with same | ⟨offset, place, failed⟩
  · rw [same, show readNested (maxNesting + 1) c = (.error e, after) from read]
    exact .inl rfl
  · rw [failed]
    exact .inr ⟨offset, place, rfl⟩

end Value

-- The decoder of values against that of documents, on any bytes and at any place. They differ where
-- a document nests as deeply as it may: as a document it is read, as a value it is not, although it
-- was a value that was written.
theorem object_decoders_exact (field : String) :
    (∀ c d after, Document.read c = (.ok d, after) → nesting d < 200 →
      Value.read Kind.object.tag field c = (.ok (.document d), after)) ∧
    (∀ c d after, Document.read c = (.ok d, after) → 200 ≤ nesting d → ∃ first place,
      IsLeast (starts d 200) first ∧
        Value.read Kind.object.tag field c = (.error (.tooDeep 200 (c.index + first)), place)) ∧
    (∀ c e after, Document.read c = (.error e, after) →
      Value.read Kind.object.tag field c = (.error e, after) ∨ ∃ offset place,
        Value.read Kind.object.tag field c = (.error (.tooDeep 200 offset), place)) ∧
    ∀ bytes d, Document.decode bytes = .ok d → ∀ index rest,
      (Value.read Kind.object.tag field ⟨index, (Value.document d).encode ++ rest⟩ =
        (.ok (.document d), ⟨index + bytes.length, rest⟩) ↔ nesting d < 200) := by
  refine ⟨fun _ _ _ => Value.read_object_shallow, fun _ _ _ => Value.read_object_deep field,
    fun _ _ _ => Value.read_object_error, ?_⟩
  intro bytes d decoded index rest
  obtain ⟨encodable, rfl⟩ := Document.decode_exact.mp decoded
  have whole : Document.read ⟨index, (Value.document d).encode ++ rest⟩ =
      (.ok d, ⟨index + d.encode.length, rest⟩) := by
    rw [Value.encode_inner (v := .document d) rfl]
    exact Document.read_exact.mpr ⟨encodable, Cursor.moves_over index d.encode rest⟩
  constructor
  · intro read
    by_contra deep
    obtain ⟨first, place, -, failed⟩ := Value.read_object_deep field whole
      (Nat.le_of_not_lt deep)
    cases read.symm.trans failed
  · exact Value.read_object_shallow whole

theorem deepest_document_refused :
    Document.decode (tower 200).encode = .ok (tower 200) ∧ ∃ place,
      Value.read Kind.object.tag "tower" (.ofBytes (Value.document (tower 200)).encode) =
        (.error (.tooDeep 200 1600), place) := by
  have writable : (tower 200).Writable := tower_writable (by decide)
  have depth := tower_nesting 200
  have encodable : (tower 200).Encodable := ⟨writable.faithful, depth.le, writable.fits⟩
  have read := Document.read_exact.mpr ⟨encodable, Cursor.moves_over 0 (tower 200).encode []⟩
  obtain ⟨first, place, least, failed⟩ := Value.read_object_deep "tower" read depth.ge
  rw [least.unique (tower_least 200), List.append_nil] at failed
  refine ⟨Document.decode_exact.mpr ⟨encodable, rfl⟩, place, ?_⟩
  rw [Value.encode_inner (v := .document (tower 200)) rfl]
  exact failed

end WireSchema.Bson
