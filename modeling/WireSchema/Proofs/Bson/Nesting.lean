import Mathlib.Order.Bounds.Basic
import WireSchema.Proofs.Bson.RoundTrip

namespace WireSchema.Bson

open Cursor

-- Of a document that nests too deeply the wire form is read up to the first part for which no level
-- is left, and the decoder names the byte where that part starts. The induction is on the levels
-- that are left, and for each on the elements.

def Value.inner? : Value → Option Document
  | .document d => some d
  | .array d => some d
  | _ => none

def valueOffset (before : Document) (name : String) : Nat :=
  4 + (encodeElements before).length + 1 + (cstringBytes name).length

-- `part` lies `level` levels below a document, and its wire form starts `offset` bytes behind the
-- start of the document's.
inductive Lies : Document → Nat → Nat → Document → Prop where
  | itself {d : Document} : Lies d 0 0 d
  | inside {before after d part : Document} {name : String} {v : Value} {level offset : Nat}
      (own : v.inner? = some d) (lies : Lies d level offset part) :
      Lies (before ++ (name, v) :: after) (level + 1) (valueOffset before name + offset) part

def starts (d : Document) (level : Nat) : Set Nat :=
  fun offset => ∃ part, Lies d level offset part

section

variable {v : Value} {d : Document}

theorem Value.inner?_some (own : v.inner? = some d) : v = .document d ∨ v = .array d := by
  cases v with
  | document e =>
    cases own
    exact .inl rfl
  | array e =>
    cases own
    exact .inr rfl
  | _ => cases own

theorem Value.depth_inner (own : v.inner? = some d) : v.depth = nesting d + 1 := by
  rcases inner?_some own with rfl | rfl <;> rfl

theorem Value.encode_inner (own : v.inner? = some d) : v.encode = d.encode := by
  rcases inner?_some own with rfl | rfl <;> rw [Value.encode, Document.encode]

theorem Value.writable_inner (own : v.inner? = some d) (faithful : v.Faithful) (fits : v.Fits) :
    d.Writable := by
  rcases inner?_some own with rfl | rfl <;> exact ⟨faithful, fits⟩

theorem Value.inner?_of_depth (deep : 0 < v.depth) : ∃ d, v.inner? = some d := by
  cases v with
  | document d => exact ⟨d, rfl⟩
  | array d => exact ⟨d, rfl⟩
  | _ => exact absurd deep (Nat.lt_irrefl 0)

end

theorem nesting_member {d : Document} {element : String × Value} (member : element ∈ d) :
    element.2.depth ≤ nesting d := by
  induction d with
  | nil => cases member
  | cons first rest ih =>
    rw [nesting]
    rcases List.mem_cons.mp member with rfl | later
    · exact le_max_left _ _
    · exact (ih later).trans (le_max_right _ _)

theorem encodeElements_append (before after : Document) :
    encodeElements (before ++ after) = encodeElements before ++ encodeElements after := by
  induction before with
  | nil => simp [encodeElements]
  | cons first rest ih => simp [encodeElements, ih]

theorem valueOffset_element (before : Document) (name : String) (v : Value) :
    4 + (encodeElements (before ++ [(name, v)])).length =
      valueOffset before name + v.encode.length := by
  rw [encodeElements_append, valueOffset]
  simp only [encodeElements, List.length_append, List.length_cons, List.length_nil]
  omega

theorem valueOffset_later (before more : Document) (name other : String) (v : Value) :
    valueOffset before name + v.encode.length ≤
      valueOffset (before ++ (name, v) :: more) other := by
  have split : before ++ (name, v) :: more = (before ++ [(name, v)]) ++ more := by simp
  rw [← valueOffset_element, split, valueOffset, encodeElements_append (before ++ [(name, v)]),
    List.length_append]
  omega

theorem Lies.shallow {d part : Document} {level offset : Nat} (lies : Lies d level offset part) :
    level ≤ nesting d := by
  induction lies with
  | itself => exact Nat.zero_le _
  | @inside before after d part name v level offset own lies ih =>
    have member : (name, v) ∈ before ++ (name, v) :: after := by simp
    have inside := nesting_member member
    rw [Value.depth_inner own] at inside
    omega

theorem Lies.found {d part : Document} {level offset : Nat} (lies : Lies d level offset part) :
    ∃ front back, d.encode = front ++ part.encode ++ back ∧ front.length = offset := by
  induction lies with
  | itself => exact ⟨[], [], by simp, rfl⟩
  | @inside before after d part name v level offset own lies ih =>
    obtain ⟨front, back, bytes, length⟩ := ih
    let header := lengthBytes ((encodeElements (before ++ (name, v) :: after)).length + 5)
    refine ⟨header ++ encodeElements before ++ v.kind.tag :: cstringBytes name ++ front,
      back ++ encodeElements after ++ [0], ?_, ?_⟩
    · rw [Document.encode, framed, encodeElements_append, encodeElements, Value.encode_inner own,
        bytes]
      simp [header, encodeElements_append, encodeElements, Value.encode_inner own, bytes]
    · have four : header.length = 4 := littleEndian_length 4 _
      simp only [valueOffset, List.length_append, List.length_cons, four, length]
      omega

theorem Lies.inside_bytes {d part : Document} {level offset : Nat}
    (lies : Lies d level offset part) : offset < d.encode.length := by
  obtain ⟨front, back, bytes, rfl⟩ := lies.found
  rw [bytes, Document.encode]
  simp only [List.length_append, framed_length]
  omega

theorem splits {α : Type} {before after front back : List α} {a b : α}
    (same : before ++ a :: after = front ++ b :: back) :
    (∃ more, front = before ++ a :: more) ∨ (front = before ∧ b = a ∧ back = after) ∨
      ∃ more, before = front ++ b :: more := by
  rcases List.append_eq_append_iff.mp same with ⟨more, rfl, rest⟩ | ⟨more, rfl, rest⟩
  · cases more with
    | nil =>
      obtain ⟨rfl, rfl⟩ := List.cons.inj rest
      exact .inr (.inl ⟨List.append_nil before, rfl, rfl⟩)
    | cons first more =>
      obtain ⟨rfl, -⟩ := List.cons.inj rest
      exact .inl ⟨more, rfl⟩
  · cases more with
    | nil =>
      obtain ⟨rfl, rfl⟩ := List.cons.inj rest
      exact .inr (.inl ⟨(List.append_nil front).symm, rfl, rfl⟩)
    | cons first more =>
      obtain ⟨rfl, -⟩ := List.cons.inj rest
      exact .inr (.inr ⟨more, rfl⟩)

-- Where all elements in front are too shallow, the first part is one of the next value.
theorem least_inside {before after d : Document} {name : String} {v : Value} {level offset : Nat}
    (shallow : ∀ element ∈ before, element.2.depth ≤ level) (own : v.inner? = some d)
    (least : IsLeast (starts d level) offset) :
    IsLeast (starts (before ++ (name, v) :: after) (level + 1))
      (valueOffset before name + offset) := by
  obtain ⟨⟨part, lies⟩, least⟩ := least
  refine ⟨⟨part, .inside own lies⟩, ?_⟩
  rintro _ ⟨other, found⟩
  generalize parts : before ++ (name, v) :: after = whole at found
  cases found with
  | @inside front back e _ key w _ reached has deeper =>
    rcases splits parts with ⟨more, rfl⟩ | ⟨rfl, same, -⟩ | ⟨more, rfl⟩
    · have far := valueOffset_later before more name key v
      have near := lies.inside_bytes
      rw [← Value.encode_inner own] at near
      omega
    · cases same
      cases own.symm.trans has
      exact Nat.add_le_add_left (least ⟨_, deeper⟩) _
    · have flat := shallow (key, w) (by simp)
      have deep := deeper.shallow
      rw [Value.depth_inner has] at flat
      omega

theorem readValue_inner {nested : Cursor → Outcome Document} {v : Value} {d : Document}
    {name : String} {c place : Cursor} {e : DecodeError} (own : v.inner? = some d)
    (failed : nested c = (.error e, place)) :
    readValue nested v.kind.tag name c = (.error e, place) := by
  unfold readValue
  rw [Kind.ofTag?_tag]
  rcases Value.inner?_some own with rfl | rfl <;> simp only [Value.kind, readValueOf, failed]

section

variable {levels : Nat} {nested : Cursor → Outcome Document}
  (inner : ∀ {c d after}, nested c = (.ok d, after) ↔ WrittenDocument levels c d after)
  (deeper : ∀ {c after : Cursor} {d : Document}, d.Writable → c.Moves d.encode after →
    levels ≤ nesting d → ∃ first place, IsLeast (starts d levels) first ∧
      nested c = (.error (.tooDeep maxNesting (c.index + first)), place))

include inner deeper

-- The elements in front have been read; the first one behind them that is too deep ends the run.
theorem readElements_tooDeep {length : Int32} {offset fuel : Nat} {c after : Cursor}
    {before elements : Document} (shallow : ∀ element ∈ before, element.2.depth ≤ levels)
    (reached : c.index = offset + 4 + (encodeElements before).length)
    (faithful : ElementsFaithful elements) (fits : ∀ element ∈ elements, element.2.Fits)
    (deep : levels < nesting elements) (moved : c.Moves (encodeElements elements ++ [0]) after)
    (stopped : after.index = offset + length.toInt.toNat) (enough : c.rest.length ≤ fuel) :
    ∃ first place, IsLeast (starts (before ++ elements) (levels + 1)) first ∧
      readElements nested length offset fuel c =
        (.error (.tooDeep maxNesting (offset + first)), place) := by
  induction elements generalizing before c fuel with
  | nil => exact absurd deep (Nat.not_lt_zero levels)
  | cons element rest ih =>
    obtain ⟨name, v⟩ := element
    obtain ⟨free, faithful, others⟩ := faithful
    obtain ⟨vFits, fits⟩ := List.forall_mem_cons.mp fits
    obtain ⟨place, start, next, tagged, named, valued, moved⟩ := moves_element moved
    have one := tagged.length
    have two := named.length
    have three := valued.length
    rw [List.length_singleton] at one
    have arrived : start.index = offset + valueOffset before name := by
      rw [named.behind, tagged.behind, reached, valueOffset, List.length_singleton]
      omega
    cases fuel with
    | zero => omega
    | succ fuel =>
      by_cases flat : v.depth ≤ levels
      · have passed : readValue nested v.kind.tag name start = (.ok v, next) :=
          (readValue_exact inner).mpr ⟨rfl, faithful, flat, vFits, valued⟩
        have room : next.index < offset + length.toInt.toNat := by
          rw [← stopped, moved.behind, List.length_append, List.length_singleton]
          omega
        have onward :
            next.index = offset + 4 + (encodeElements (before ++ [(name, v)])).length := by
          rw [valued.behind, arrived, Nat.add_assoc, Nat.add_assoc, valueOffset_element]
        have allFlat : ∀ element ∈ before ++ [(name, v)], element.2.depth ≤ levels := by
          simpa [or_imp, forall_and, flat] using shallow
        rw [nesting] at deep
        obtain ⟨first, stop, least, failed⟩ :=
          ih allFlat onward others fits (by omega) moved (show next.rest.length ≤ fuel by omega)
        refine ⟨first, stop, by simpa using least, ?_⟩
        rw [readElements_passed free tagged named passed room, failed]
      · obtain ⟨d, own⟩ := Value.inner?_of_depth (v := v) (by omega)
        have depth := Value.depth_inner own
        rw [Value.encode_inner own] at valued
        obtain ⟨first, stop, least, failed⟩ :=
          deeper (Value.writable_inner own faithful vFits) valued (by omega)
        refine ⟨valueOffset before name + first, stop, least_inside shallow own least, ?_⟩
        rw [readElements_refused free tagged named (readValue_inner own failed), arrived,
          Nat.add_assoc]

end

theorem readNested_tooDeep {levels : Nat} {c after : Cursor} {d : Document} (writable : d.Writable)
    (moved : c.Moves d.encode after) (deep : levels ≤ nesting d) :
    ∃ first place, IsLeast (starts d levels) first ∧
      readNested levels c = (.error (.tooDeep maxNesting (c.index + first)), place) := by
  induction levels generalizing c after d with
  | zero => exact ⟨0, c, ⟨⟨d, .itself⟩, fun _ _ => Nat.zero_le _⟩, rfl⟩
  | succ levels ih =>
    obtain ⟨length, place, same, stopped, passed, elements⟩ := readNested_header writable.fits moved
    have small := writable.fits
    rw [Document.encode, framed_length] at small
    have fits : ∀ element ∈ d, element.2.Fits := by
      intro element member
      have := element_length member
      exact Value.fits_of_length (by omega)
    rw [same]
    exact readElements_tooDeep readNested_exact ih (List.forall_mem_nil _)
      (by simpa [encodeElements] using passed) writable.faithful fits deep elements stopped
      (Nat.le_refl _)

def tower : Nat → Document
  | 0 => []
  | levels + 1 => [("", .null), ("", .array (tower levels)), ("", .document [])]

theorem cstringBytes_empty : cstringBytes "" = [0] := rfl

theorem tower_nesting (levels : Nat) : nesting (tower levels) = levels := by
  induction levels with
  | zero => rfl
  | succ levels ih => simp [tower, nesting, Value.depth, ih]

theorem tower_length (levels : Nat) : (encodeElements (tower levels)).length = 16 * levels := by
  induction levels with
  | zero => rfl
  | succ levels ih =>
    simp only [tower, encodeElements, Value.encode, cstringBytes_empty, framed_length, ih,
      List.length_append, List.length_cons, List.length_nil]
    omega

theorem tower_faithful (levels : Nat) : ElementsFaithful (tower levels) := by
  have free : NulFree "" := by decide
  induction levels with
  | zero => trivial
  | succ levels ih => simp [tower, ElementsFaithful, Value.Faithful, free, ih]

theorem tower_writable {levels : Nat} (few : levels ≤ 1000) : (tower levels).Writable := by
  refine ⟨tower_faithful levels, ?_⟩
  rw [Document.encode, framed_length, tower_length]
  omega

theorem tower_least (levels : Nat) : IsLeast (starts (tower levels) levels) (8 * levels) := by
  induction levels with
  | zero => exact ⟨⟨_, .itself⟩, fun _ _ => Nat.zero_le _⟩
  | succ levels ih =>
    have flat : ∀ element ∈ [("", Value.null)], element.2.depth ≤ levels := by
      simp [Value.depth]
    have here : IsLeast (starts (tower (levels + 1)) (levels + 1))
        (valueOffset [("", .null)] "" + 8 * levels) := least_inside flat rfl ih
    have eight : valueOffset [("", .null)] "" + 8 * levels = 8 * (levels + 1) := by
      rw [show valueOffset [("", .null)] "" = 8 from rfl]
      omega
    rwa [eight] at here

namespace Document

theorem decode_tooDeep {d : Document} (writable : d.Writable) (deep : maxNesting < nesting d) :
    ∃ first, IsLeast (starts d (maxNesting + 1)) first ∧
      Document.decode d.encode = .error (.tooDeep maxNesting first) := by
  have moved : (Cursor.ofBytes d.encode).Moves d.encode ⟨0 + d.encode.length, []⟩ :=
    ⟨(List.append_nil _).symm, rfl⟩
  obtain ⟨first, place, least, failed⟩ := readNested_tooDeep writable moved deep
  refine ⟨first, least, ?_⟩
  have start : (Cursor.ofBytes d.encode).index + first = first := Nat.zero_add first
  rw [Document.decode, Document.read, failed, start]

-- A document for which depth is the only question. The limit is two hundred levels below it.
theorem nesting_limit_exact (d : Document) (writable : d.Writable) :
    (nesting d ≤ 200 → starts d 201 = ∅ ∧ Document.decode d.encode = .ok d) ∧
      (200 < nesting d → ∃ first, IsLeast (starts d 201) first ∧
        Document.decode d.encode = .error (.tooDeep 200 first)) := by
  constructor
  · intro shallow
    refine ⟨?_, decode_exact.mpr ⟨⟨writable.faithful, shallow, writable.fits⟩, rfl⟩⟩
    rw [Set.eq_empty_iff_forall_notMem]
    rintro first ⟨part, lies⟩
    exact absurd lies.shallow (by omega)
  · intro deep
    exact decode_tooDeep writable deep

theorem nesting_limit_exact_tower :
    (tower 201).Writable ∧ nesting (tower 201) = 201 ∧
      Document.decode (tower 201).encode = .error (.tooDeep 200 1608) := by
  have writable : (tower 201).Writable := tower_writable (by decide)
  have deep := tower_nesting 201
  obtain ⟨first, least, failed⟩ := (nesting_limit_exact (tower 201) writable).2 (by omega)
  rw [least.unique (tower_least 201)] at failed
  exact ⟨writable, deep, failed⟩

end Document

end WireSchema.Bson
