import WireSchema.Proofs.Bson.Decoding

namespace WireSchema.Bson

namespace Document

theorem read_exact {c after : Cursor} {d : Document} :
    Document.read c = (.ok d, after) ↔ d.Encodable ∧ c.Moves d.encode after := by
  unfold Document.read
  rw [readNested_exact]
  constructor
  · intro parts
    obtain ⟨faithful, shallow, fits, moved⟩ := parts
    exact ⟨⟨faithful, Nat.le_of_lt_succ shallow, fits⟩, moved⟩
  · intro parts
    obtain ⟨⟨faithful, shallow, fits⟩, moved⟩ := parts
    exact ⟨faithful, Nat.lt_succ_of_le shallow, fits, moved⟩

theorem decode_exact {bytes : List UInt8} {d : Document} :
    Document.decode bytes = .ok d ↔ d.Encodable ∧ bytes = d.encode := by
  unfold Document.decode
  constructor
  · intro decoded
    split at decoded
    · cases decoded
    · rename_i found place read
      split at decoded
      · rename_i finished
        cases decoded
        obtain ⟨encodable, moved⟩ := read_exact.mp read
        have nothing : place.rest = [] := List.length_eq_zero_iff.mp finished
        refine ⟨encodable, ?_⟩
        have ahead := moved.ahead
        rwa [nothing, List.append_nil] at ahead
      · cases decoded
  · intro parts
    obtain ⟨encodable, rfl⟩ := parts
    have moved : (Cursor.ofBytes d.encode).Moves d.encode ⟨0 + d.encode.length, []⟩ := by
      refine ⟨?_, rfl⟩
      rw [Cursor.ofBytes, List.append_nil]
    rw [read_exact.mpr ⟨encodable, moved⟩]
    rfl

theorem read_encode_append (d : Document) (encodable : d.Encodable) (index : Nat)
    (rest : List UInt8) :
    Document.read ⟨index, d.encode ++ rest⟩ = (.ok d, ⟨index + d.encode.length, rest⟩) ∧
      Document.decode d.encode = .ok d := by
  refine ⟨?_, ?_⟩
  · exact read_exact.mpr ⟨encodable, Cursor.moves_over index d.encode rest⟩
  · exact decode_exact.mpr ⟨encodable, rfl⟩

-- Repeated names, array keys out of order, a NUL inside a text and the lowest user-defined subtype.
def crowded : Document :=
  [("a", .document [("", .array [("7", .string "x\x00y"), ("0", .binary (.userDefined 7) [1, 0])])]),
    ("a", .regex "^é" "i"), ("nan", .double ⟨0x7ff8000000000001⟩), ("", .timestamp 7 9)]

theorem read_encode_append_crowded :
    crowded.Encodable ∧
      Document.read ⟨3, crowded.encode ++ [1, 2]⟩ = (.ok crowded, ⟨3 + crowded.encode.length, [1, 2]⟩) ∧
      Document.decode crowded.encode = .ok crowded := by
  have encodable : crowded.Encodable := by decide
  exact ⟨encodable, read_encode_append crowded encodable 3 [1, 2]⟩

structure Writable (d : Document) : Prop where
  faithful : ElementsFaithful d
  fits : d.encode.length < 2 ^ 31

-- The levels that a document needs can always be allowed to it, so nothing limits its depth.
theorem encode_inj {d e : Document} (one : d.Writable) (other : e.Writable) :
    d.encode = e.encode ↔ d = e := by
  refine ⟨fun same => ?_, congrArg encode⟩
  have comes_back (f : Document) (writable : f.Writable)
      (shallow : nesting f < max (nesting d) (nesting e) + 1) :
      readNested (max (nesting d) (nesting e) + 1) ⟨0, f.encode ++ []⟩ =
        (.ok f, ⟨0 + f.encode.length, []⟩) :=
    readNested_exact.mpr
      ⟨writable.faithful, shallow, writable.fits, Cursor.moves_over 0 f.encode []⟩
  have first := comes_back d one (Nat.lt_succ_of_le (le_max_left ..))
  have second := comes_back e other (Nat.lt_succ_of_le (le_max_right ..))
  rw [same, second] at first
  exact Except.ok.inj (congrArg Prod.fst first.symm)

theorem encode_of_decode (bytes : List UInt8) (d : Document)
    (decoded : Document.decode bytes = .ok d) :
    d.encode = bytes ∧ d.Encodable ∧
      ∀ others, Document.decode others = .ok d → others = bytes := by
  obtain ⟨encodable, rfl⟩ := decode_exact.mp decoded
  refine ⟨rfl, encodable, ?_⟩
  intro others again
  exact (decode_exact.mp again).2

theorem encode_of_decode_nested :
    Document.decode [17, 0, 0, 0, 4, 97, 0, 9, 0, 0, 0, 8, 55, 0, 1, 0, 0] =
        .ok [("a", .array [("7", .bool true)])] ∧
      Document.encode [("a", .array [("7", .bool true)])] =
        [17, 0, 0, 0, 4, 97, 0, 9, 0, 0, 0, 8, 55, 0, 1, 0, 0] := by
  have decoded : Document.decode [17, 0, 0, 0, 4, 97, 0, 9, 0, 0, 0, 8, 55, 0, 1, 0, 0] =
      .ok [("a", .array [("7", .bool true)])] := by rfl
  exact ⟨decoded, (encode_of_decode _ _ decoded).1⟩

end Document

end WireSchema.Bson
