import WireSchema.Canvas.Draw
import WireSchema.Canvas.Layer
import WireSchema.Proofs.Record.Decoders

namespace WireSchema.Canvas

open Bson (Document Value)
open Record

def IsKind (value : Value) (kind : ShapeKind) : Prop := value = .string kind.text

def IsSides (value : Value) (sides : Int32) : Prop := value = .int32 sides ∧ 3 ≤ sides.toInt

theorem ShapeKind.read_exact {c : Context} {text : String} {kind : ShapeKind} :
    ShapeKind.read c text = .ok kind ↔ text = kind.text := by
  constructor
  · intro read
    unfold ShapeKind.read at read
    split at read
    · cases read
      rfl
    · cases read
      rfl
    · cases read
  · rintro rfl
    cases kind
    · rfl
    · rfl

theorem ShapeKind.read_located {c : Context} {name text : String} {e : Fault}
    (failed : ShapeKind.read (c.child name) text = .error e) : e.Under c := by
  unfold ShapeKind.read at failed
  split at failed
  · cases failed
  · cases failed
  · cases failed
    exact ⟨name, congrArg some (c.path_child name)⟩

theorem readKind_decodes : Decodes Shape.readKind IsKind where
  exact c name value kind := by
    unfold Shape.readKind
    rw [expectKind_bind, ShapeKind.read_exact]
    cases value <;> simp [Value.kind, Value.asString, IsKind]
  located _ _ _ _ failed := expectKind_bind_located ShapeKind.read_located failed

theorem checkSides_exact {c : Option Context} {sides : Int32} :
    Shape.checkSides c sides = .ok () ↔ 3 ≤ sides.toInt := by
  by_cases enough : 3 ≤ sides.toInt <;> simp [Shape.checkSides, enough]

theorem checkSides_located {c : Context} {sides : Int32} {e : Fault}
    (failed : Shape.checkSides (some c) sides = .error e) : e.Under c := by
  unfold Shape.checkSides at failed
  split at failed
  · cases failed
  · cases failed
    exact ⟨"sides", rfl⟩

theorem readSides_decodes : Decodes Shape.readSides IsSides where
  exact c name value sides := by
    unfold Shape.readSides
    rw [bind_ok_exact]
    constructor
    · rintro ⟨_, read, done⟩
      obtain ⟨⟨⟩, checked, done⟩ := bind_ok_exact.mp done
      cases done
      exact ⟨(readInt32_decodes.exact ..).mp read, checkSides_exact.mp checked⟩
    · rintro ⟨read, checked⟩
      refine ⟨sides, (readInt32_decodes.exact ..).mpr read, ?_⟩
      exact bind_ok_exact.mpr ⟨(), checkSides_exact.mpr checked, rfl⟩
  located c name value e failed := by
    rcases bind_error_exact.mp failed with failed | ⟨sides, -, failed⟩
    · exact readInt32_decodes.located _ _ _ _ failed
    · rcases bind_error_exact.mp failed with failed | ⟨⟨⟩, -, done⟩
      · exact checkSides_located failed
      · cases done

def Point.columns : List (Column Point) := [
  .required "x" (·.x) IsInt32,
  .required "y" (·.y) IsInt32,
  .optional "label" (·.label) IsText]

def Shape.columns : List (Column Shape) := [
  .required "name" (·.name) IsText,
  .required "kind" (·.kind) IsKind,
  .required "points" (·.points) (IsArray (IsRecord Point.columns)),
  .defaulted "sides" (·.sides) 3 IsSides]

def DrawReply.columns : List (Column DrawReply) := [
  .required "ok" (·.ok) IsDouble,
  .required "drawn" (·.drawn) IsInt32]

def Style.columns : List (Column Style) := [
  .required "color" (·.color) IsText,
  .defaulted "font" (·.font) "sans" IsText]

def Layer.columns : List (Column Layer) := [
  .required "color" (·.style.color) IsText,
  .defaulted "font" (·.style.font) "sans" IsText,
  .required "depth" (·.depth) IsInt32]

theorem Point.form_realises : Point.form.Realises {} Point.columns where
  strict := rfl
  closed _ := rfl
  distinct := by decide
  fits := .cons (.required readInt32_decodes fun _ _ => rfl) <|
    .cons (.required readInt32_decodes fun _ _ => rfl) <|
    .cons (.optional readText_decodes (fun _ _ => rfl) rfl) .nil
  apart := by
    simp [form, columns, Column.required, Column.optional, FieldReader.of_keeps]
  determined p q same := by
    obtain ⟨x, y, label⟩ := p
    obtain ⟨x', y', label'⟩ := q
    simpa [columns, Column.required, Column.optional] using same

theorem Shape.form_realises : Shape.form.Realises {} Shape.columns where
  strict := rfl
  closed _ := rfl
  distinct := by decide
  fits := .cons (.required readText_decodes fun _ _ => rfl) <|
    .cons (.required readKind_decodes fun _ _ => rfl) <|
    .cons (.required (readArray_decodes (readNested_decodes Point.form_realises.reads))
      fun _ _ => rfl) <|
    .cons (.defaulted readSides_decodes (fun _ _ => rfl) fun _ => rfl) .nil
  apart := by
    simp [form, columns, Column.required, Column.defaulted, FieldReader.of_keeps]
  determined s t same := by
    obtain ⟨name, kind, points, sides⟩ := s
    obtain ⟨name', kind', points', sides'⟩ := t
    simpa [columns, Column.required, Column.defaulted] using same

theorem DrawReply.form_realises : DrawReply.form.Realises {} DrawReply.columns where
  strict := rfl
  closed _ := rfl
  distinct := by decide
  fits := .cons (.required readDouble_decodes fun _ _ => rfl) <|
    .cons (.required readInt32_decodes fun _ _ => rfl) .nil
  apart := by
    simp [form, columns, Column.required, FieldReader.of_keeps]
  determined r s same := by
    obtain ⟨ok, drawn⟩ := r
    obtain ⟨ok', drawn'⟩ := s
    simpa [columns, Column.required] using same

theorem Style.form_realises : Style.form.Realises {} Style.columns where
  strict := rfl
  closed _ := rfl
  distinct := by decide
  fits := .cons (.required readText_decodes fun _ _ => rfl) <|
    .cons (.defaulted readText_decodes (fun _ _ => rfl) fun _ => rfl) .nil
  apart := by
    simp [form, columns, Column.required, Column.defaulted, FieldReader.of_keeps, setColor, setFont]
  determined s t same := by
    obtain ⟨color, font⟩ := s
    obtain ⟨color', font'⟩ := t
    simpa [columns, Column.required, Column.defaulted] using same

theorem Layer.form_realises : Layer.form.Realises {} Layer.columns where
  strict := rfl
  closed _ := rfl
  distinct := by decide
  fits := .cons (.required readText_decodes fun _ _ => rfl) <|
    .cons (.defaulted readText_decodes (fun _ _ => rfl) fun _ => rfl) <|
    .cons (.required readInt32_decodes fun _ _ => rfl) .nil
  apart := by
    simp [form, columns, Column.required, Column.defaulted, FieldReader.of_keeps, modifyStyle,
      setDepth, Style.setColor, Style.setFont]
  determined l m same := by
    obtain ⟨⟨color, font⟩, depth⟩ := l
    obtain ⟨⟨color', font'⟩, depth'⟩ := m
    simpa [columns, Column.required, Column.defaulted, and_assoc] using same

theorem strict_records_exact :
    Strict Point.form Point.read Point.columns ∧ Strict Shape.form Shape.read Shape.columns ∧
      Strict DrawReply.form DrawReply.read DrawReply.columns ∧
      Strict Style.form Style.read Style.columns ∧ Strict Layer.form Layer.read Layer.columns :=
  ⟨Point.form_realises.isStrict, Shape.form_realises.isStrict, DrawReply.form_realises.isStrict,
    Style.form_realises.isStrict, Layer.form_realises.isStrict⟩

end WireSchema.Canvas
