import WireSchema.Canvas.Note
import WireSchema.Proofs.Canvas.Records
import WireSchema.Proofs.Record.Parts

namespace WireSchema.Canvas

open Bson (Document Value)
open Record

-- A layer never reads a style by itself, and still it is its depth and the style that the rest of
-- its document describes.

theorem Note.unknown_names_stand_once (c : Context) (d : Document) (n : Note) :
    Note.read c d = .ok n ↔
      (Document.names d).Nodup ∧ Note.read c (inside ["author", "tags"] d) = .ok n :=
  Form.read_own rfl

theorem Layer.columns_parts : Layer.columns =
    Style.columns.map (·.within (·.style)) ++ [.required "depth" (·.depth) IsInt32] := rfl

theorem Layer.read_parts {c : Context} {d : Document} {l : Layer} :
    Layer.read c d = .ok l ↔ Style.read c (outside ["depth"] d) = .ok l.style ∧
      ∃ n, inside ["depth"] d = [("depth", .int32 n)] ∧ l.depth = .of n := by
  have apart : ∀ a ∈ Style.columns.map (·.within Layer.style), a.name ∉ ["depth"] := by
    simp [Style.columns, Column.within, Column.required, Column.defaulted]
  have layer : Layer.read c d = .ok l ↔ Describes Layer.columns d l :=
    Layer.form_realises.read_ok_exact
  have style : Style.read c (outside ["depth"] d) = .ok l.style ↔
      Describes Style.columns (outside ["depth"] d) l.style := Style.form_realises.read_ok_exact
  rw [layer, style, Layer.columns_parts, describes_append apart, describes_within]
  refine and_congr_right fun _ => describes_required.trans ?_
  constructor
  · rintro ⟨value, n, only, rfl, given⟩
    exact ⟨n, only, given⟩
  · rintro ⟨n, only, given⟩
    exact ⟨_, n, only, rfl, given⟩

theorem Layer.toDocument_parts {l : Layer} {d : Document} : l.toDocument = .ok d ↔
    l.depth.given = true ∧ ∃ style, l.style.toDocument = .ok style ∧
      d = style ++ [("depth", .int32 l.depth.value)] := by
  unfold Layer.toDocument Record.complete
  cases l.depth.given with
  | false => simp [bind, Except.bind]
  | true =>
    show (l.style.toDocument >>= fun style => pure (style ++ _)) = .ok d ↔ _
    rw [bind_ok_exact]
    simp [pure, Except.pure, eq_comm]

-- The style goes by its own reader and writer, although a layer uses the one of its own fields.
theorem Layer.joins_depth_and_style :
    (∀ (c : Context) (d : Document) (l : Layer), Layer.read c d = .ok l ↔
      ∃ n, inside ["depth"] d = [("depth", .int32 n)] ∧ l.depth = .of n ∧
        Style.read c (d.erase "depth") = .ok l.style) ∧
    ∀ (l : Layer) (d : Document), l.toDocument = .ok d ↔
      l.depth.given = true ∧ ∃ style, l.style.toDocument = .ok style ∧
        d = style ++ [("depth", .int32 l.depth.value)] := by
  refine ⟨fun c d l => ?_, fun _ _ => Layer.toDocument_parts⟩
  have others : d.erase "depth" = outside ["depth"] d := by
    apply List.filter_congr
    intro element _
    rw [Bool.eq_iff_iff]
    simp
  rw [Layer.read_parts, others]
  constructor
  · rintro ⟨style, n, only, given⟩
    exact ⟨n, only, given, style⟩
  · rintro ⟨n, only, given, style⟩
    exact ⟨style, n, only, given⟩

end WireSchema.Canvas
