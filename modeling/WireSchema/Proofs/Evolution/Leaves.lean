import WireSchema.Bound.TypeBinding
import WireSchema.Emit.Value
import WireSchema.Evolution.Comparison
import WireSchema.Proofs.Record.Reading

namespace WireSchema.Bson

theorem Kind.ofName?_exact {name : String} {k : Kind} :
    Kind.ofName? name = some k ↔ k.name = name := by
  constructor
  · intro found
    simpa using List.find?_some found
  · rintro rfl
    cases k <;> rfl

theorem Kind.name_injective {k l : Kind} (same : k.name = l.name) : k = l := by
  have found := Kind.ofName?_exact.mpr same
  rw [Kind.ofName?_exact.mpr rfl] at found
  exact (Option.some.inj found).symm

def Kind.sample : Kind → Value
  | .double => .double .zero
  | .string => .string ""
  | .object => .document []
  | .array => .array []
  | .binData => .binary .generic []
  | .undefined => .undefined
  | .objectId => .objectId default
  | .bool => .bool false
  | .date => .date 0
  | .null => .null
  | .regex => .regex "" ""
  | .int32 => .int32 0
  | .timestamp => .timestamp 0 0
  | .int64 => .int64 0
  | .decimal128 => .decimal128 default

theorem Kind.kind_sample (k : Kind) : k.sample.kind = k := by
  cases k <;> rfl

theorem Value.binary_of_subtype {v : Value} {s : Subtype} (found : v.subtype? = some s) :
    v.kind = .binData := by
  cases v with
  | binary => rfl
  | _ => cases found

end WireSchema.Bson

namespace WireSchema.Emit

open Bson (Kind Subtype Value)
open Record (Context Fault)
open WireSchema.Bound (BasicType)

namespace ElementCheck

def run (c : Context) (field : String) (v : Value) : ElementCheck → Except Fault Unit
  | kind expected => c.expectKind field v expected
  | kinds expected => c.expectKinds field v expected
  | subtype expected => c.expectSubtype field v expected

def Passes (check : ElementCheck) (v : Value) : Prop :=
  ∀ c field, check.run c field v = .ok ()

def asked : ElementCheck → List Kind
  | kind expected => [expected]
  | kinds expected => expected
  | subtype _ => [.binData]

variable {check : ElementCheck} {v : Value} {c : Context} {field : String}

theorem expectSubtype_exact {s : Subtype} :
    c.expectSubtype field v s = .ok () ↔ v.subtype? = some s := by
  unfold Context.expectSubtype Context.expectKind
  rw [bind_ok_exact]
  constructor
  · rintro ⟨-, -, found⟩
    split at found
    · rename_i other known
      split at found
      · rename_i same
        rw [known, same]
      · cases found
    · cases found
  · intro found
    refine ⟨(), Context.expectKinds_exact.mpr ?_, ?_⟩
    · exact List.mem_singleton.mpr (Value.binary_of_subtype found)
    · rw [found]
      exact if_pos rfl

theorem run_exact : check.run c field v = .ok () ↔
    v.kind ∈ check.asked ∧ ∀ s, check = .subtype s → v.subtype? = some s := by
  cases check with
  | kind expected => simp [run, asked, Context.expectKind, Context.expectKinds_exact]
  | kinds expected => simp [run, asked, Context.expectKinds_exact]
  | subtype expected =>
    simp only [run, asked, expectSubtype_exact, List.mem_singleton, subtype.injEq, forall_eq']
    exact (and_iff_right_of_imp Value.binary_of_subtype).symm

theorem passes_exact : check.Passes v ↔
    v.kind ∈ check.asked ∧ ∀ s, check = .subtype s → v.subtype? = some s :=
  ⟨fun passes => run_exact.mp (passes (.root "") ""), fun admitted _ _ => run_exact.mpr admitted⟩

theorem exists_passing {k : Kind} (member : k ∈ check.asked) :
    ∃ v, v.kind = k ∧ check.Passes v := by
  cases check with
  | subtype s =>
    rw [List.mem_singleton.mp member]
    refine ⟨.binary s [], rfl, passes_exact.mpr ⟨List.mem_singleton.mpr rfl, ?_⟩⟩
    simp [Value.subtype?]
  | _ =>
    refine ⟨k.sample, k.kind_sample, passes_exact.mpr ⟨?_, fun s same => nomatch same⟩⟩
    rw [k.kind_sample]
    exact member

end ElementCheck

theorem kindsOf_names {tags : List String} {kinds : List Kind} (known : kindsOf tags = .ok kinds) :
    tags = kinds.map Kind.name := by
  induction tags generalizing kinds with
  | nil =>
    cases known
    rfl
  | cons tag tags ih =>
    unfold kindsOf at known
    rw [List.mapM_cons] at known
    obtain ⟨k, first, known⟩ := bind_ok_exact.mp known
    obtain ⟨ks, others, known⟩ := bind_ok_exact.mp known
    cases known
    split at first
    · rename_i named
      cases first
      rw [List.map_cons, Kind.ofName?_exact.mp named, ← ih others]
    · cases first

-- What is emitted for a type asks for the kinds of its wire types, and binary data is never asked
-- for alone without its subtype.
theorem typeCheck_asked {t : BasicType} {check : ElementCheck} (emitted : typeCheck t = .ok check) :
    t.wireTypes = check.asked.map Kind.name ∧ check ≠ .kind .binData := by
  unfold typeCheck at emitted
  split at emitted
  · rename_i tag single
    have only : t.wireTypes = [tag] := by
      unfold BasicType.singleWireType? at single
      grind
    rw [only]
    split at emitted
    · rename_i binary
      obtain ⟨s, -, done⟩ := bind_ok_exact.mp emitted
      cases done
      exact ⟨congrArg (fun tag => [tag]) (beq_iff_eq.mp binary), fun same => nomatch same⟩
    · rename_i other
      obtain ⟨k, known, done⟩ := bind_ok_exact.mp emitted
      cases done
      unfold kindOf at known
      split at known
      · rename_i named
        cases known
        have name := Kind.ofName?_exact.mp named
        refine ⟨congrArg (fun tag => [tag]) name.symm, ?_⟩
        rintro ⟨⟩
        exact other (beq_iff_eq.mpr name.symm)
      · cases known
  · obtain ⟨kinds, known, done⟩ := bind_ok_exact.mp emitted
    cases done
    exact ⟨kindsOf_names known, fun same => nomatch same⟩

end WireSchema.Emit

namespace WireSchema.Evolution

open Bson (Kind Value)
open Emit (ElementCheck typeCheck)
open Schema (TypeDef)

-- The comparison looks at wire types alone. The subtype of binary data, which a type of one wire
-- type checks as well, is not compared, so there a silent comparison may lose elements.

-- In a request the old side wrote what the new side reads, in a reply it is the other way round.
def Direction.writer {α : Type} (d : Direction) (old new : α) : α :=
  d.pick old old new

def Direction.reader {α : Type} (d : Direction) (old new : α) : α :=
  d.pick new new old

section

variable {p : Pairing} {d : Direction} {field : String} {old new : TypeDef}
  {oldCheck newCheck writer reader : ElementCheck}

theorem covers_exact {old new : List String} :
    covers d old new = true ↔ ∀ tag ∈ d.writer old new, tag ∈ d.reader old new := by
  cases d <;> simp [covers, Direction.writer, Direction.reader, Direction.pick]

theorem compareTypes_silent (oldPlain : isAny old = false) (newPlain : isAny new = false) :
    compareTypes p d field old new = [] ↔
      ∀ tag ∈ d.writer old.wireTypes new.wireTypes, tag ∈ d.reader old.wireTypes new.wireTypes := by
  rw [compareTypes, oldPlain, newPlain, ← covers_exact]
  split <;> simp_all

theorem compareEnums_silent {old new : Schema.EnumDef} :
    compareEnums p d field old new = [] ↔
      ∀ text ∈ d.writer (old.values.map (·.value)) (new.values.map (·.value)),
        text ∈ d.reader (old.values.map (·.value)) (new.values.map (·.value)) := by
  rw [← covers_exact]
  simp [compareEnums, Pairing.typeFault, Pairing.fault]

theorem kinds_cover : (∀ tag ∈ writer.asked.map Kind.name, tag ∈ reader.asked.map Kind.name) ↔
    ∀ k ∈ writer.asked, k ∈ reader.asked := by
  constructor
  · intro covered k member
    obtain ⟨l, there, same⟩ := List.mem_map.mp (covered k.name (List.mem_map_of_mem member))
    exact Kind.name_injective same ▸ there
  · intro covered tag member
    obtain ⟨k, asked, rfl⟩ := List.mem_map.mp member
    exact List.mem_map_of_mem (covered k asked)

def SubtypeKept (writer reader : ElementCheck) : Prop :=
  ∀ s, reader = .subtype s → writer = .subtype s ∨ writer = .kinds []

theorem passes_cover (alone : writer ≠ .kind .binData) :
    (∀ v, writer.Passes v → reader.Passes v) ↔
      (∀ k ∈ writer.asked, k ∈ reader.asked) ∧ SubtypeKept writer reader := by
  constructor
  · intro kept
    have covered : ∀ k ∈ writer.asked, k ∈ reader.asked := by
      intro k member
      obtain ⟨v, rfl, passes⟩ := ElementCheck.exists_passing member
      exact (ElementCheck.passes_exact.mp (kept v passes)).1
    refine ⟨covered, ?_⟩
    rintro s rfl
    have binary : ∀ k ∈ writer.asked, k = .binData :=
      fun k member => List.mem_singleton.mp (covered k member)
    cases writer with
    | kind k =>
      rw [binary k (List.mem_singleton.mpr rfl)] at alone
      exact absurd rfl alone
    | kinds ks =>
      cases ks with
      | nil => exact .inr rfl
      | cons k ks =>
        -- The reader wants one subtype, and all of them are written.
        have first := binary k List.mem_cons_self
        have only (other : Bson.Subtype) : other = s := by
          have passes : (ElementCheck.kinds (k :: ks)).Passes (.binary other []) :=
            ElementCheck.passes_exact.mpr
              ⟨first ▸ List.mem_cons_self, fun _ same => nomatch same⟩
          exact Option.some.inj ((ElementCheck.passes_exact.mp (kept _ passes)).2 s rfl)
        exact nomatch (only .generic).trans (only .uuid).symm
    | subtype other =>
      have passes : (ElementCheck.subtype other).Passes (.binary other []) :=
        ElementCheck.passes_exact.mpr ⟨List.mem_singleton.mpr rfl, by simp [Value.subtype?]⟩
      have same := (ElementCheck.passes_exact.mp (kept _ passes)).2 s rfl
      cases same
      exact .inl rfl
  · rintro ⟨covered, subtypes⟩ v passes
    obtain ⟨asked, looked⟩ := ElementCheck.passes_exact.mp passes
    refine ElementCheck.passes_exact.mpr ⟨covered _ asked, ?_⟩
    intro s same
    rcases subtypes s same with rfl | rfl
    · exact looked s rfl
    · cases asked

-- Nothing that was read is refused if and only if the comparison is silent and, where the reader
-- looks at a subtype, the subtype has stayed. The comparison does not see the second part.
theorem leaf_types_exact (oldPlain : isAny old = false) (newPlain : isAny new = false)
    (oldEmitted : typeCheck (Bound.basicTypeOf old) = .ok oldCheck)
    (newEmitted : typeCheck (Bound.basicTypeOf new) = .ok newCheck) :
    (∀ v, (d.writer oldCheck newCheck).Passes v → (d.reader oldCheck newCheck).Passes v) ↔
      compareTypes p d field old new = [] ∧
        SubtypeKept (d.writer oldCheck newCheck) (d.reader oldCheck newCheck) := by
  obtain ⟨oldTypes, oldAlone⟩ := Emit.typeCheck_asked oldEmitted
  obtain ⟨newTypes, newAlone⟩ := Emit.typeCheck_asked newEmitted
  have oldTypes : old.wireTypes = oldCheck.asked.map Kind.name := oldTypes
  have newTypes : new.wireTypes = newCheck.asked.map Kind.name := newTypes
  rw [compareTypes_silent oldPlain newPlain, oldTypes, newTypes]
  cases d with
  | reply => exact (passes_cover newAlone).trans (and_congr_left' kinds_cover.symm)
  | parameter => exact (passes_cover oldAlone).trans (and_congr_left' kinds_cover.symm)
  | commandType => exact (passes_cover oldAlone).trans (and_congr_left' kinds_cover.symm)

end

def token (subtype : String) : TypeDef :=
  { location := Schema.builtinLocation, name := "token", rustType := some "Vec<u8>"
    wireTypes := ["bindata"], subtype := some subtype }

def tokenOrText : TypeDef :=
  { location := Schema.builtinLocation, name := "token", rustType := some "Token"
    wireTypes := ["string", "bindata"], deserializer := some "read" }

-- A command of one file, with no definitions around it before or after.
def alone (command file : String) : Pairing :=
  { command, old := { file, symbols := {} }, new := { file, symbols := {} } }

def puts : Pairing :=
  alone "put" "put.idl"

theorem leaf_types_exact_token :
    compareTypes puts .parameter "key" (token "uuid") tokenOrText = [] ∧
      typeCheck (Bound.basicTypeOf (token "uuid")) = .ok (.subtype .uuid) ∧
      typeCheck (Bound.basicTypeOf tokenOrText) = .ok (.kinds [.string, .binData]) ∧
      ∀ v, (ElementCheck.subtype .uuid).Passes v →
        (ElementCheck.kinds [.string, .binData]).Passes v := by
  have silent : compareTypes puts .parameter "key" (token "uuid") tokenOrText = [] := rfl
  refine ⟨silent, rfl, rfl, ?_⟩
  have exact := @leaf_types_exact puts .parameter "key" (token "uuid") tokenOrText
    (.subtype .uuid) (.kinds [.string, .binData]) rfl rfl rfl rfl
  exact exact.mpr ⟨silent, fun _ same => nomatch same⟩

-- Generic binary data was a token, and only a UUID is one now.
theorem changed_subtype_unnoticed :
    (∀ d, compareTypes puts d "key" (token "generic") (token "uuid") = []) ∧
      typeCheck (Bound.basicTypeOf (token "generic")) = .ok (.subtype .generic) ∧
      typeCheck (Bound.basicTypeOf (token "uuid")) = .ok (.subtype .uuid) ∧
      (ElementCheck.subtype .generic).Passes (.binary .generic [1]) ∧
      ¬ (ElementCheck.subtype .uuid).Passes (.binary .generic [1]) := by
  refine ⟨fun d => by cases d <;> rfl, rfl, rfl, fun _ _ => rfl, ?_⟩
  intro passes
  exact nomatch passes (.root "put") "key"

end WireSchema.Evolution
