import WireSchema.Canvas.Draw
import WireSchema.Canvas.Layer
import WireSchema.Canvas.Note
import WireSchema.Canvas.Shape
import WireSchema.Proofs.Record.Reading

namespace WireSchema.Canvas

open Bson (Document ElementsFaithful Value nesting)
open Record (Context FieldReader Form RoundTrips Slot)

structure Point.Complete (p : Point) : Prop where
  x : p.x.given = true
  y : p.y.given = true

structure Shape.Complete (s : Shape) : Prop where
  name : s.name.given = true
  kind : s.kind.given = true
  points : s.points.given = true
  each : ∀ p ∈ s.points.value, p.Complete
  countable : s.points.value.length < 2 ^ 32
  sides : 3 ≤ s.sides.toInt

structure Note.Complete (n : Note) : Prop where
  author : n.author.given = true
  countable : ∀ tags, n.tags = some tags → tags.length < 2 ^ 32

structure DrawReply.Complete (r : DrawReply) : Prop where
  ok : r.ok.given = true
  drawn : r.drawn.given = true

structure Style.Complete (s : Style) : Prop where
  color : s.color.given = true

structure Layer.Complete (l : Layer) : Prop where
  style : l.style.Complete
  depth : l.depth.given = true

namespace Point

def elements (p : Point) : Document :=
  [("x", .int32 p.x.value), ("y", .int32 p.y.value)] ++
    p.label.toList.map fun l => ("label", Value.string l)

theorem toDocument_complete {p : Point} (complete : p.Complete) :
    p.toDocument = .ok p.elements := by
  unfold toDocument
  rw [complete.x, complete.y]
  rfl

theorem read_elements {p : Point} (complete : p.Complete) (c : Context) :
    Point.read c p.elements = .ok p := by
  obtain ⟨⟨x, _⟩, ⟨y, _⟩, label⟩ := p
  obtain ⟨rfl, rfl⟩ := complete
  cases label with
  | none =>
    apply Form.read_fills
    · exact .field rfl (FieldReader.of_read rfl _) (.field rfl (FieldReader.of_read rfl _) .nil)
    · exact (by decide : ["x", "y"].Nodup)
    · simp [form, FieldReader.of, elements, Document.names]
  | some l =>
    apply Form.read_fills
    · exact .field rfl (FieldReader.of_read rfl _) (.field rfl (FieldReader.of_read rfl _)
        (.field rfl (FieldReader.of_read rfl _) .nil))
    · exact (by decide : ["x", "y", "label"].Nodup)
    · simp [form, FieldReader.of, elements, Document.names]

theorem plain (p : Point) : ElementsFaithful p.elements ∧ nesting p.elements = 0 := by
  obtain ⟨x, y, label⟩ := p
  cases label with
  | none => exact ⟨⟨by decide, trivial, by decide, trivial, trivial⟩, rfl⟩
  | some l => exact ⟨⟨by decide, trivial, by decide, trivial, by decide, trivial, trivial⟩, rfl⟩

theorem round_trips {p : Point} (complete : p.Complete) :
    RoundTrips Point.read Point.toDocument p := by
  obtain ⟨faithful, flat⟩ := p.plain
  apply Record.roundTrips_of_read (toDocument_complete complete) faithful
  · rw [flat]
    exact Nat.zero_le _
  · exact read_elements complete

theorem toDocuments_complete {points : List Point} (each : ∀ p ∈ points, p.Complete) :
    points.mapM (·.toDocument) = .ok (points.map (·.elements)) := by
  induction points with
  | nil => rfl
  | cons p points ih =>
    obtain ⟨first, others⟩ := List.forall_mem_cons.mp each
    rw [List.mapM_cons, toDocument_complete first, ih others]
    rfl

end Point

namespace Shape

theorem readKind_text (c : Context) (name : String) (kind : ShapeKind) :
    readKind c name (.string kind.text) = .ok kind := by
  cases kind <;> rfl

theorem readSides_int32 {sides : Int32} (enough : 3 ≤ sides.toInt) (c : Context) (name : String) :
    readSides c name (.int32 sides) = .ok sides := by
  have checked : checkSides (some c) sides = .ok () := if_pos enough
  unfold readSides
  rw [Record.readInt32_int32]
  show (checkSides (some c) sides >>= fun _ => pure sides) = _
  rw [checked]
  rfl

def elements (s : Shape) : Document :=
  [("name", .string s.name.value), ("kind", .string s.kind.value.text),
    ("points", .ofItems (s.points.value.map fun p => .document p.elements)),
    ("sides", .int32 s.sides)]

theorem toDocument_complete {s : Shape} (complete : s.Complete) :
    s.toDocument = .ok s.elements := by
  unfold toDocument
  rw [complete.name, complete.kind, complete.points, Point.toDocuments_complete complete.each]
  show Except.ok _ = _
  rw [List.map_map]
  rfl

theorem read_elements {s : Shape} (complete : s.Complete) (c : Context) :
    Shape.read c s.elements = .ok s := by
  obtain ⟨⟨name, _⟩, ⟨kind, _⟩, ⟨points, _⟩, sides⟩ := s
  obtain ⟨rfl, rfl, rfl, each, countable, enough⟩ := complete
  have pointsRead : Record.readArray (Record.readNested Point.read) c "points"
      (.ofItems (points.map fun p => .document p.elements)) = .ok points := by
    apply Record.readArray_ofItems
    · intro p member key
      exact Point.read_elements (each p member) _
    · exact countable
  apply Form.read_fills
  · exact .field rfl (FieldReader.of_read rfl _) (.field rfl (FieldReader.of_read (readKind_text c _ kind) _)
      (.field rfl (FieldReader.of_read pointsRead _)
        (.field rfl (FieldReader.of_read (readSides_int32 enough c _) _) .nil)))
  · exact (by decide : ["name", "kind", "points", "sides"].Nodup)
  · simp [form, FieldReader.of, elements, Document.names]

theorem plain (s : Shape) : ElementsFaithful s.elements ∧ nesting s.elements ≤ 2 := by
  have each : ∀ v ∈ s.points.value.map (fun p => Value.document p.elements),
      v.Faithful ∧ v.depth = 1 := by
    intro v member
    obtain ⟨p, -, rfl⟩ := List.mem_map.mp member
    obtain ⟨faithful, flat⟩ := p.plain
    exact ⟨faithful, congrArg (· + 1) flat⟩
  have points := Bson.faithful_keyedFrom 0 (fun v member => (each v member).1)
  have levels := Bson.nesting_keyedFrom 0 (fun v member => Nat.le_of_eq (each v member).2)
  refine ⟨⟨by decide, trivial, by decide, trivial, by decide, points, by decide, trivial, trivial⟩, ?_⟩
  exact max_le (Nat.zero_le _) (max_le (Nat.zero_le _) (max_le (Nat.succ_le_succ levels) (Nat.zero_le _)))

theorem round_trips {s : Shape} (complete : s.Complete) :
    RoundTrips Shape.read Shape.toDocument s := by
  obtain ⟨faithful, shallow⟩ := s.plain
  apply Record.roundTrips_of_read (toDocument_complete complete) faithful
  · exact le_trans shallow (by decide)
  · exact read_elements complete

end Shape

namespace Note

def elements (n : Note) : Document :=
  [("author", .string n.author.value)] ++
    n.tags.toList.map fun tags => ("tags", Value.ofItems (tags.map .string))

theorem toDocument_complete {n : Note} (complete : n.Complete) :
    n.toDocument = .ok n.elements := by
  unfold toDocument
  rw [complete.author]
  rfl

theorem read_elements {n : Note} (complete : n.Complete) (c : Context) :
    Note.read c n.elements = .ok n := by
  obtain ⟨⟨author, _⟩, tags⟩ := n
  obtain ⟨rfl, countable⟩ := complete
  cases tags with
  | none =>
    apply Form.read_fills
    · exact .field rfl (FieldReader.of_read rfl _) .nil
    · exact (by decide : ["author"].Nodup)
    · simp [form, FieldReader.of, elements, Document.names]
  | some tags =>
    have tagsRead : Record.readArray Record.readText c "tags" (.ofItems (tags.map .string)) =
        .ok tags := by
      apply Record.readArray_ofItems
      · intro tag _ key
        rfl
      · exact countable tags rfl
    apply Form.read_fills
    · exact .field rfl (FieldReader.of_read rfl _)
        (.field rfl (FieldReader.of_read tagsRead _) .nil)
    · exact (by decide : ["author", "tags"].Nodup)
    · simp [form, FieldReader.of, elements, Document.names]

theorem plain (n : Note) : ElementsFaithful n.elements ∧ nesting n.elements ≤ 1 := by
  obtain ⟨author, tags⟩ := n
  cases tags with
  | none => exact ⟨⟨by decide, trivial, trivial⟩, Nat.zero_le _⟩
  | some tags =>
    have each : ∀ v ∈ tags.map Value.string, v.Faithful ∧ v.depth = 0 := by
      intro v member
      obtain ⟨tag, -, rfl⟩ := List.mem_map.mp member
      exact ⟨trivial, rfl⟩
    have items := Bson.faithful_keyedFrom 0 (fun v member => (each v member).1)
    have levels := Bson.nesting_keyedFrom 0 (fun v member => Nat.le_of_eq (each v member).2)
    refine ⟨⟨by decide, trivial, by decide, items, trivial⟩, ?_⟩
    exact max_le (Nat.zero_le _) (max_le (Nat.succ_le_succ levels) (Nat.zero_le _))

theorem round_trips {n : Note} (complete : n.Complete) : RoundTrips Note.read Note.toDocument n := by
  obtain ⟨faithful, shallow⟩ := n.plain
  apply Record.roundTrips_of_read (toDocument_complete complete) faithful
  · exact le_trans shallow (by decide)
  · exact read_elements complete

end Note

namespace DrawReply

theorem round_trips {r : DrawReply} (complete : r.Complete) :
    RoundTrips DrawReply.read DrawReply.toDocument r := by
  obtain ⟨⟨ok, _⟩, ⟨drawn, _⟩⟩ := r
  obtain ⟨rfl, rfl⟩ := complete
  apply Record.roundTrips_of_read
  · rfl
  · exact ⟨by decide, trivial, by decide, trivial, trivial⟩
  · exact Nat.zero_le _
  · intro c
    apply Form.read_fills
    · exact .field rfl (FieldReader.of_read rfl _) (.field rfl (FieldReader.of_read rfl _) .nil)
    · exact (by decide : ["ok", "drawn"].Nodup)
    · simp [form, FieldReader.of, Document.names]

end DrawReply

namespace Style

theorem round_trips {s : Style} (complete : s.Complete) :
    RoundTrips Style.read Style.toDocument s := by
  obtain ⟨⟨color, _⟩, font⟩ := s
  obtain ⟨rfl⟩ := complete
  apply Record.roundTrips_of_read
  · rfl
  · exact ⟨by decide, trivial, by decide, trivial, trivial⟩
  · exact Nat.zero_le _
  · intro c
    apply Form.read_fills
    · exact .field rfl (FieldReader.of_read rfl _) (.field rfl (FieldReader.of_read rfl _) .nil)
    · exact (by decide : ["color", "font"].Nodup)
    · simp [form, FieldReader.of, Document.names]

end Style

namespace Layer

-- The fields of the style stand among the layer's own, so the layer fills them in itself.
theorem round_trips {l : Layer} (complete : l.Complete) :
    RoundTrips Layer.read Layer.toDocument l := by
  obtain ⟨⟨⟨color, _⟩, font⟩, ⟨depth, _⟩⟩ := l
  obtain ⟨⟨rfl⟩, rfl⟩ := complete
  apply Record.roundTrips_of_read
  · rfl
  · exact ⟨by decide, trivial, by decide, trivial, by decide, trivial, trivial⟩
  · exact Nat.zero_le _
  · intro c
    apply Form.read_fills
    · exact .field rfl (FieldReader.of_read rfl _) (.field rfl (FieldReader.of_read rfl _)
        (.field rfl (FieldReader.of_read rfl _) .nil))
    · exact (by decide : ["color", "font", "depth"].Nodup)
    · simp [form, FieldReader.of, Document.names]

end Layer

theorem complete_records_round_trip :
    (∀ p : Point, p.Complete → RoundTrips Point.read Point.toDocument p) ∧
    (∀ s : Shape, s.Complete → RoundTrips Shape.read Shape.toDocument s) ∧
    (∀ n : Note, n.Complete → RoundTrips Note.read Note.toDocument n) ∧
    (∀ r : DrawReply, r.Complete → RoundTrips DrawReply.read DrawReply.toDocument r) ∧
    (∀ s : Style, s.Complete → RoundTrips Style.read Style.toDocument s) ∧
    ∀ l : Layer, l.Complete → RoundTrips Layer.read Layer.toDocument l :=
  ⟨fun _ => Point.round_trips, fun _ => Shape.round_trips, fun _ => Note.round_trips,
    fun _ => DrawReply.round_trips, fun _ => Style.round_trips, fun _ => Layer.round_trips⟩

def labelled : Point := (Point.withRequired 4 (-1)).setLabel (some "")

def bent : Shape := { Shape.withRequired "bent" .circle [.withRequired 0 0, labelled] with sides := 4 }

def tagged : Note := (Note.withRequired "me").setTags (some ["a", "a"])

def deep : Layer := (Layer.withRequired 7).setStyle ((Style.withRequired "red").setFont "mono")

theorem complete_records_round_trip_filled :
    RoundTrips Point.read Point.toDocument labelled ∧ RoundTrips Shape.read Shape.toDocument bent ∧
      RoundTrips Note.read Note.toDocument tagged ∧
      RoundTrips DrawReply.read DrawReply.toDocument (.withRequired .one 2) ∧
      RoundTrips Style.read Style.toDocument deep.style ∧
      RoundTrips Layer.read Layer.toDocument deep := by
  obtain ⟨point, shape, note, reply, style, layer⟩ := complete_records_round_trip
  have labelledComplete : labelled.Complete := ⟨rfl, rfl⟩
  have bentComplete : bent.Complete := by
    refine ⟨rfl, rfl, rfl, ?_, by decide, by decide⟩
    intro p member
    rcases List.mem_cons.mp member with rfl | later
    · exact ⟨rfl, rfl⟩
    · rw [List.mem_singleton.mp later]
      exact labelledComplete
  have taggedComplete : tagged.Complete := by
    refine ⟨rfl, ?_⟩
    rintro tags ⟨⟩
    decide
  exact ⟨point _ labelledComplete, shape _ bentComplete, note _ taggedComplete, reply _ ⟨rfl, rfl⟩,
    style _ ⟨rfl⟩, layer _ ⟨⟨rfl⟩, rfl⟩⟩

end WireSchema.Canvas
