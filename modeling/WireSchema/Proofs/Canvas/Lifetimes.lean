import WireSchema.Proofs.Canvas.Records
import WireSchema.Proofs.Canvas.RoundTrip

namespace WireSchema.Record

open Bson (Document)

inductive Origin (α : Type) where
  | new
  | withRequired (members : α)
  | parse (c : Context) (d : Document)

-- Only an empty record starts without its required members.
def Origin.full {α : Type} : Origin α → Bool
  | .new => false
  | .withRequired _ | .parse .. => true

structure Life (σ α ε μ : Type) where
  new : σ
  withRequired : α → σ
  read : Context → Document → Except Fault σ
  perform : ε → σ → Except Fault Unit × σ
  gives : ε → Option μ

namespace Life

variable {σ α ε μ : Type}

def make (life : Life σ α ε μ) : Origin α → Except Fault σ
  | .new => .ok life.new
  | .withRequired members => .ok (life.withRequired members)
  | .parse c d => life.read c d

-- Edits go on whether or not one of them was refused.
def run (life : Life σ α ε μ) (edits : List ε) (record : σ) : σ :=
  edits.foldl (fun record edit => (life.perform edit record).2) record

def Reaches (life : Life σ α ε μ) (origin : Origin α) (edits : List ε) (record : σ) : Prop :=
  ∃ first, life.make origin = .ok first ∧ life.run edits first = record

def Given (life : Life σ α ε μ) (origin : Origin α) (edits : List ε) (m : μ) : Prop :=
  origin.full = true ∨ ∃ edit ∈ edits, life.gives edit = some m

structure Tracks (life : Life σ α ε μ) (given : σ → μ → Bool) : Prop where
  new : ∀ m, given life.new m = false
  withRequired : ∀ members m, given (life.withRequired members) m = true
  read : ∀ c d record, life.read c d = .ok record → ∀ m, given record m = true
  step : ∀ edit record m,
    given (life.perform edit record).2 m = true ↔ given record m = true ∨ life.gives edit = some m

variable {life : Life σ α ε μ} {given : σ → μ → Bool} {origin : Origin α} {edits : List ε}
  {record : σ} {P : σ → Prop}

theorem run_keeps (step : ∀ edit record, P record → P (life.perform edit record).2)
    (holds : P record) : P (life.run edits record) := by
  induction edits generalizing record with
  | nil => exact holds
  | cons edit edits ih => exact ih (step edit record holds)

theorem Reaches.keeps (lived : life.Reaches origin edits record)
    (made : ∀ origin record, life.make origin = .ok record → P record)
    (step : ∀ edit record, P record → P (life.perform edit record).2) : P record := by
  obtain ⟨first, makes, rfl⟩ := lived
  exact run_keeps step (made origin first makes)

theorem Tracks.run (tracks : life.Tracks given) (edits : List ε) (record : σ) (m : μ) :
    given (life.run edits record) m = true ↔
      given record m = true ∨ ∃ edit ∈ edits, life.gives edit = some m := by
  induction edits generalizing record with
  | nil => simp [Life.run]
  | cons edit edits ih =>
    show given (life.run edits (life.perform edit record).2) m = true ↔ _
    rw [ih, tracks.step, or_assoc, List.exists_mem_cons_iff]

theorem Tracks.lived (tracks : life.Tracks given) (lived : life.Reaches origin edits record) (m : μ) :
    given record m = true ↔ life.Given origin edits m := by
  obtain ⟨first, makes, rfl⟩ := lived
  rw [tracks.run]
  refine or_congr_left ?_
  cases origin with
  | new =>
    cases makes
    simp [tracks.new, Origin.full]
  | withRequired members =>
    cases makes
    simp [tracks.withRequired, Origin.full]
  | parse c d => simp [tracks.read c d first makes, Origin.full]

end Life

theorem Column.Holds.given {σ α : Type} {name : String} {get : σ → Slot α}
    {Denotes : Bson.Value → α → Prop} {d : Document} {record : σ}
    (holds : (Column.required name get Denotes).Holds d record) : (get record).given = true := by
  obtain ⟨told, -, made⟩ := holds
  obtain ⟨a, -, same⟩ := Option.map_eq_some_iff.mp made
  exact congrArg Slot.given same.symm

theorem complete_bind_error {α : Type} {typeName : String} {given : Bool}
    {rest : Unit → Except Incomplete α} {i : Incomplete} :
    complete typeName given >>= rest = .error i ↔
      i = ⟨typeName⟩ ∧ given = false ∨ given = true ∧ rest () = .error i := by
  cases given <;> simp [complete, bind, Except.bind, eq_comm]

end WireSchema.Record

namespace WireSchema.Canvas

open Bson (Document)
open Record

-- Through all edits a shape keeps three sides or more, and a record that cannot be written lacks
-- what nothing in its life gave to it.

namespace Point

inductive Member where
  | x
  | y

inductive Edit where
  | setX (x : Int32)
  | setY (y : Int32)
  | setLabel (label : Option String)

def given (p : Point) : Member → Bool
  | .x => p.x.given
  | .y => p.y.given

def Edit.perform : Edit → Point → Except Fault Unit × Point
  | .setX x, p => (.ok (), p.setX x)
  | .setY y, p => (.ok (), p.setY y)
  | .setLabel label, p => (.ok (), p.setLabel label)

def Edit.gives : Edit → Option Member
  | .setX _ => some .x
  | .setY _ => some .y
  | .setLabel _ => none

def life : Life Point (Int32 × Int32) Edit Member where
  new := {}
  withRequired := fun (x, y) => withRequired x y
  read := read
  perform := Edit.perform
  gives := Edit.gives

theorem life_tracks : life.Tracks given where
  new m := by cases m <;> rfl
  withRequired _ m := by cases m <;> rfl
  read c d p read m := by
    have describes := form_realises.read_ok_exact.mp read
    cases m with
    | x => exact (describes.each (.required "x" (·.x) IsInt32) (by simp [columns])).given
    | y => exact (describes.each (.required "y" (·.y) IsInt32) (by simp [columns])).given
  step edit p m := by
    cases edit <;> cases m <;>
      simp [life, Edit.perform, Edit.gives, given, setX, setY, setLabel, Slot.of]

theorem complete_exact (p : Point) : p.Complete ↔ ∀ m, p.given m = true := by
  constructor
  · rintro ⟨x, y⟩ m
    cases m with
    | x => exact x
    | y => exact y
  · intro all
    exact ⟨all .x, all .y⟩

theorem toDocument_error_exact (p : Point) (i : Incomplete) :
    p.toDocument = .error i ↔ i = ⟨"Point"⟩ ∧ ¬p.Complete := by
  have whole : p.Complete ↔ (p.x.given && p.y.given) = true := by
    rw [Bool.and_eq_true]
    exact ⟨fun ⟨x, y⟩ => ⟨x, y⟩, fun ⟨x, y⟩ => ⟨x, y⟩⟩
  unfold toDocument
  rw [complete_bind_error, whole, Bool.not_eq_true]
  simp [pure, Except.pure]

theorem toDocuments_error_exact (points : List Point) (i : Incomplete) :
    points.mapM (·.toDocument) = .error i ↔ i = ⟨"Point"⟩ ∧ ∃ p ∈ points, ¬p.Complete := by
  induction points with
  | nil => simp [pure, Except.pure]
  | cons p points ih =>
    rw [List.mapM_cons, bind_error_exact, toDocument_error_exact, List.exists_mem_cons_iff]
    constructor
    · rintro (⟨rfl, lacks⟩ | ⟨_, -, failed⟩)
      · exact ⟨rfl, .inl lacks⟩
      · obtain ⟨rfl, lacks⟩ := ih.mp (bind_pure_error_exact.mp failed)
        exact ⟨rfl, .inr lacks⟩
    · rintro ⟨rfl, lacks⟩
      by_cases whole : p.Complete
      · have others := ih.mpr ⟨rfl, lacks.resolve_left (not_not.mpr whole)⟩
        exact .inr ⟨_, toDocument_complete whole, bind_pure_error_exact.mpr others⟩
      · exact .inl ⟨rfl, whole⟩

end Point

namespace Shape

inductive Member where
  | name
  | kind
  | points

-- What is asked of the sides stands in their setter alone; points are edited in place by anything.
inductive Edit where
  | setName (name : String)
  | setKind (kind : ShapeKind)
  | setPoints (points : List Point)
  | editPoints (f : List Point → List Point)
  | setSides (sides : Int32)

def given (s : Shape) : Member → Bool
  | .name => s.name.given
  | .kind => s.kind.given
  | .points => s.points.given

def Edit.perform : Edit → Shape → Except Fault Unit × Shape
  | .setName name, s => (.ok (), s.setName name)
  | .setKind kind, s => (.ok (), s.setKind kind)
  | .setPoints points, s => (.ok (), s.setPoints points)
  | .editPoints f, s => (.ok (), s.modifyPoints f)
  | .setSides sides, s =>
    match s.setSides sides with
    | .ok changed => (.ok (), changed)
    | .error e => (.error e, s)

def Edit.gives : Edit → Option Member
  | .setName _ => some .name
  | .setKind _ => some .kind
  | .setPoints _ => some .points
  | .editPoints _ | .setSides _ => none

def life : Life Shape (String × ShapeKind × List Point) Edit Member where
  new := {}
  withRequired := fun (name, kind, points) => withRequired name kind points
  read := read
  perform := Edit.perform
  gives := Edit.gives

theorem setSides_exact (s : Shape) (n : Int32) : (Edit.setSides n).perform s =
    if n.toInt < 3 then (.error (.comparison "sides" ">=" (toString n.toInt) "3"), s)
    else (.ok (), { s with sides := n }) := by
  by_cases few : n.toInt < 3
  · have refused : checkSides none n =
        .error (.comparison "sides" ">=" (toString n.toInt) "3") := if_neg (not_le.mpr few)
    simp only [Edit.perform, setSides, refused, if_pos few, bind, Except.bind]
  · have passed : checkSides none n = .ok () := checkSides_exact.mpr (not_lt.mp few)
    simp only [Edit.perform, setSides, passed, if_neg few, bind, Except.bind, pure, Except.pure]

theorem life_tracks : life.Tracks given where
  new m := by cases m <;> rfl
  withRequired _ m := by cases m <;> rfl
  read c d s read m := by
    have describes := form_realises.read_ok_exact.mp read
    cases m with
    | name => exact (describes.each (.required "name" (·.name) IsText) (by simp [columns])).given
    | kind => exact (describes.each (.required "kind" (·.kind) IsKind) (by simp [columns])).given
    | points =>
      exact (describes.each (.required "points" (·.points) (IsArray (IsRecord Point.columns)))
        (by simp [columns])).given
  step edit s m := by
    cases edit with
    | setSides n =>
      show given ((Edit.setSides n).perform s).2 m = true ↔ _
      rw [setSides_exact]
      split <;> cases m <;> simp [life, Edit.gives, given]
    | _ =>
      cases m <;> simp [life, Edit.perform, Edit.gives, given, setName, setKind, setPoints,
        modifyPoints, Slot.of, Slot.modify]

theorem made_sides {origin : Origin (String × ShapeKind × List Point)} {s : Shape}
    (made : life.make origin = .ok s) : 3 ≤ s.sides.toInt := by
  cases origin with
  | new =>
    cases made
    decide
  | withRequired members =>
    cases made
    exact (by decide : 3 ≤ defaultSides.toInt)
  | parse c d =>
    have describes := form_realises.read_ok_exact.mp made
    obtain ⟨told, tells, same⟩ :=
      describes.each (.defaulted "sides" (·.sides) 3 IsSides) (by simp [columns])
    have sides : @Option.getD Int32 told 3 = s.sides := Option.some.inj same
    rw [← sides]
    cases tells with
    | given here denotes => exact denotes.2
    | absent => decide

theorem perform_sides (edit : Edit) (s : Shape) (enough : 3 ≤ s.sides.toInt) :
    3 ≤ (edit.perform s).2.sides.toInt := by
  cases edit with
  | setSides n =>
    rw [setSides_exact]
    split
    · exact enough
    · exact not_lt.mp ‹_›
  | _ => exact enough

theorem toDocument_error_exact (s : Shape) (i : Incomplete) : s.toDocument = .error i ↔
    i = ⟨"Shape"⟩ ∧ (∃ m, s.given m = false) ∨
      i = ⟨"Point"⟩ ∧ (∀ m, s.given m = true) ∧ ∃ p ∈ s.points.value, ¬p.Complete := by
  have whole : (∀ m, s.given m = true) ↔
      (s.name.given && s.kind.given && s.points.given) = true := by
    rw [Bool.and_eq_true, Bool.and_eq_true]
    constructor
    · intro all
      exact ⟨⟨all .name, all .kind⟩, all .points⟩
    · rintro ⟨⟨name, kind⟩, points⟩ m
      cases m <;> assumption
  have lacking : (∃ m, s.given m = false) ↔ ¬∀ m, s.given m = true := by simp
  unfold toDocument
  rw [complete_bind_error, bind_pure_error_exact, Point.toDocuments_error_exact, lacking, whole,
    Bool.not_eq_true, and_left_comm]

end Shape

-- A point is complete as far as its own life goes, wherever it is put then.
theorem shape_lives_exact {origin : Origin (String × ShapeKind × List Point)}
    {edits : List Shape.Edit} {s : Shape} (lived : Shape.life.Reaches origin edits s) :
    3 ≤ s.sides.toInt ∧
    (∀ n : Int32, (Shape.Edit.setSides n).perform s =
      if n.toInt < 3 then (.error (.comparison "sides" ">=" (toString n.toInt) "3"), s)
      else (.ok (), { s with sides := n })) ∧
    (∀ text, (∃ i, s.toDocument = .error i ∧ i.message = text) ↔
      text = "Shape is missing required fields" ∧ (∃ m, ¬Shape.life.Given origin edits m) ∨
      text = "Point is missing required fields" ∧ (∀ m, Shape.life.Given origin edits m) ∧
        ∃ p ∈ s.points.value, ¬p.Complete) ∧
    ∀ start changes p, Point.life.Reaches start changes p →
      (p.Complete ↔ ∀ m, Point.life.Given start changes m) := by
  refine ⟨lived.keeps (fun _ _ => Shape.made_sides) Shape.perform_sides, s.setSides_exact, ?_, ?_⟩
  · intro text
    have lacks (m : Shape.Member) : s.given m = false ↔ ¬Shape.life.Given origin edits m := by
      rw [← Shape.life_tracks.lived lived, Bool.not_eq_true]
    simp only [Shape.toDocument_error_exact, lacks, Shape.life_tracks.lived lived]
    constructor
    · rintro ⟨_, ⟨rfl, missing⟩ | ⟨rfl, missing⟩, rfl⟩
      · exact .inl ⟨rfl, missing⟩
      · exact .inr ⟨rfl, missing⟩
    · rintro (⟨rfl, missing⟩ | ⟨rfl, missing⟩)
      · exact ⟨_, .inl ⟨rfl, missing⟩, rfl⟩
      · exact ⟨_, .inr ⟨rfl, missing⟩, rfl⟩
  · intro start changes p grown
    rw [Point.complete_exact]
    exact forall_congr' (Point.life_tracks.lived grown)

-- The points are there, but they only came by an edit in place.
def sketching : List Shape.Edit :=
  [.setName "sketch", .setSides 2, .setKind .circle, .setSides 7,
    .editPoints (· ++ [.withRequired 1 2])]

def sketch : Shape := Shape.life.run sketching {}

theorem shape_lives_exact_sketch :
    Shape.life.Reaches .new sketching sketch ∧ sketch.sides = 7 ∧
      sketch.points.value = [.withRequired 1 2] ∧ (Point.withRequired 1 2).Complete ∧
      ∃ i, sketch.toDocument = .error i ∧ i.message = "Shape is missing required fields" := by
  have lived : Shape.life.Reaches .new sketching sketch := ⟨_, rfl, rfl⟩
  obtain ⟨-, -, fails, complete⟩ := shape_lives_exact lived
  refine ⟨lived, by decide, by decide, ?_, (fails _).mpr (.inl ⟨rfl, .points, ?_⟩)⟩
  · exact (complete (.withRequired (1, 2)) [] _ ⟨_, rfl, rfl⟩).mpr fun _ => .inl rfl
  rintro (⟨⟨⟩⟩ | ⟨edit, there, gives⟩)
  simp only [sketching, List.mem_cons, List.not_mem_nil, or_false] at there
  rcases there with rfl | rfl | rfl | rfl | rfl <;> cases gives

end WireSchema.Canvas
