import WireSchema.Canvas.Draw
import WireSchema.Proofs.Record.Strict

namespace WireSchema.Canvas.Draw

open Bson (Document Value)
open Record (Context Fault FieldReader Form Request)

-- The command's own element comes first and goes by any name, which nobody looks at. Behind it each
-- field of the command stands once at most, and the only other names are generic arguments.

def fieldNames : List String :=
  ["shape", "dryRun", "$db"]

theorem form_names : form.fields.map (·.name) = fieldNames := rfl

theorem form_declares {name : String} (own : name ∈ fieldNames) : ∃ f, form.field? name = some f :=
  Form.field?_some (form_names ▸ own)

theorem form_sound : form.Sound where
  strict := rfl
  distinct := by
    rw [form_names]
    decide
  even f member := by
    simp only [form, List.mem_cons, List.not_mem_nil, or_false] at member
    rcases member with rfl | rfl | rfl
    all_goals exact FieldReader.of_even

theorem finish_nothing (c : Context) :
    form.finish c { record := ofNamespace default } = .error (c.missingField "shape") := rfl

theorem readRequest_parts {c : Context} {r : Request} {d : Draw} (read : readRequest c r = .ok d) :
    ∃ name value rest p, r.body = (name, value) :: rest ∧
      form.scan c (ofNamespace default) rest = .ok p := by
  obtain ⟨p, scanned, read⟩ := bind_ok_exact.mp read
  cases body : r.body with
  | nil =>
    rw [body] at scanned read
    cases scanned
    split at read
    · cases read
    · rw [finish_nothing] at read
      cases read
  | cons element rest =>
    rw [body] at scanned
    exact ⟨element.1, element.2, rest, p, rfl, scanned⟩

theorem readRequest_renamed {c : Context} {r : Request} {name other : String} {value : Value}
    {rest : Document} (body : r.body = (name, value) :: rest) :
    readRequest c { r with body := (other, value) :: rest } = readRequest c r := by
  unfold readRequest
  rw [body]
  rfl

theorem scan_once {c : Context} {rest : Document} {p : Form.Progress Draw}
    (scanned : form.scan c (ofNamespace default) rest = .ok p) (name : String) :
    (Document.names rest).count name ≤ 1 ∨
      name ∈ Record.genericArguments ∧ name ∉ fieldNames := by
  have clear := form_sound.scan_ok_exact.mp ⟨p, scanned⟩
  by_cases own : name ∈ fieldNames
  · obtain ⟨f, declared⟩ := form_declares own
    exact .inl (clear.once declared)
  · by_cases member : name ∈ Document.names rest
    · have undeclared : form.field? name = none := by
        refine Form.field?_none.mpr fun f field named => own ?_
        rw [← form_names, ← named]
        exact List.mem_map_of_mem field
      exact .inr ⟨List.contains_iff_mem.mp (clear.lets member undeclared), own⟩
    · simp [List.count_eq_zero_of_not_mem member]

theorem readRequest_repeated {c : Context} {r : Request} {first : String × Value}
    {before after : Document} {name : String} {value : Value}
    (body : r.body = first :: (before ++ (name, value) :: after)) (clear : form.Clear c before)
    (own : name ∈ fieldNames) (again : name ∈ Document.names before) :
    readRequest c r = .error (c.duplicateField name) := by
  obtain ⟨f, declared⟩ := form_declares own
  refine bind_error_exact.mpr (.inl ?_)
  rw [body]
  exact form_sound.scan_error_exact.mpr
    ⟨before, (name, value), after, rfl, clear, .repeated declared again⟩

theorem own_names_stand_once (c : Context) (r : Request) :
    (∀ d, readRequest c r = .ok d → ∃ name value rest, r.body = (name, value) :: rest ∧
      (∀ other, readRequest c { r with body := (other, value) :: rest } = .ok d) ∧
      ∀ repeated, 2 ≤ (Document.names rest).count repeated →
        repeated ∈ Record.genericArguments ∧ repeated ∉ fieldNames) ∧
    ∀ first before name value after, r.body = first :: (before ++ (name, value) :: after) →
      form.Clear c before → name ∈ fieldNames → name ∈ Document.names before →
      readRequest c r = .error (c.duplicateField name) := by
  refine ⟨?_, fun _ _ _ _ _ => readRequest_repeated⟩
  intro d read
  obtain ⟨name, value, rest, p, body, scanned⟩ := readRequest_parts read
  refine ⟨name, value, rest, body, fun other => (readRequest_renamed body).trans read, ?_⟩
  intro repeated twice
  exact (scan_once scanned repeated).resolve_left (by omega)

def sketched : Draw := withRequired ⟨"canvas", "sketches"⟩ (Shape.withRequired "dot" .circle [])

def sketchedFields : Document :=
  [("shape", .document
      [("kind", .string "circle"), ("name", .string "dot"), ("points", .array [])]),
    ("$db", .string "canvas")]

-- The first element goes by the name of a field.
def misnamed : Request :=
  { body := ("shape", .string "sketches") :: sketchedFields }

theorem own_names_stand_once_misnamed :
    readRequest (.root "draw") misnamed = .ok sketched ∧
      (∀ other, readRequest (.root "draw")
        { body := (other, .string "sketches") :: sketchedFields } = .ok sketched) ∧
      (∀ repeated, 2 ≤ (Document.names sketchedFields).count repeated →
        repeated ∈ Record.genericArguments ∧ repeated ∉ fieldNames) ∧
      form.Clear (.root "draw") sketchedFields ∧
      readRequest (.root "draw") { body := misnamed.body ++ [("shape", .null)] } =
        .error (.duplicateField "draw.shape") := by
  have read : readRequest (.root "draw") misnamed = .ok sketched := rfl
  obtain ⟨name, value, rest, body, renamed, once⟩ :=
    (own_names_stand_once (.root "draw") misnamed).1 sketched read
  cases body
  have clear : form.Clear (.root "draw") sketchedFields := by
    obtain ⟨_, _, _, p, body, scanned⟩ := readRequest_parts read
    cases body
    exact form_sound.scan_ok_exact.mp ⟨p, scanned⟩
  refine ⟨read, renamed, once, clear, ?_⟩
  exact (own_names_stand_once (.root "draw") { body := misnamed.body ++ [("shape", .null)] }).2
    _ sketchedFields "shape" .null [] rfl clear (by decide) (by decide)

-- A request may repeat the name of its first element, and a generic argument.
theorem repeated_names_accepted :
    readRequest (.root "draw") misnamed = .ok sketched ∧
      (Document.names misnamed.body).count "shape" = 2 ∧
      readRequest (.root "draw")
        { body := ("draw", .string "sketches") :: sketchedFields ++
          [("maxTimeMS", .int32 1), ("maxTimeMS", .int32 2)] } = .ok sketched :=
  ⟨rfl, by decide, rfl⟩

end WireSchema.Canvas.Draw
