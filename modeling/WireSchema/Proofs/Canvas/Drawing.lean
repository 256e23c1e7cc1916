import WireSchema.Proofs.Canvas.RoundTrip

namespace WireSchema.Canvas.Draw

open Bson (Document Value)
open Record (Context Fault FieldReader Form Namespace Request)

-- The namespace travels in two elements: the collection in the first one, the database in `$db`.

-- All the ways to come by a command. The flag of its database is nobody else's to clear.
inductive Made : Draw → Prop where
  | ofNamespace (ns : Namespace) : Made (ofNamespace ns)
  | setShape {d : Draw} (made : Made d) (shape : Shape) : Made (d.setShape shape)
  | modifyShape {d : Draw} (made : Made d) (f : Shape → Shape) : Made (d.modifyShape f)
  | setDryRun {d : Draw} (made : Made d) (dryRun : Option Bool) : Made (d.setDryRun dryRun)
  | setDb {d : Draw} (made : Made d) (db : String) : Made (d.setDb db)
  | read {c : Context} {r : Request} {d : Draw} (read : readRequest c r = .ok d) : Made d

theorem form_read_given {c : Context} {f : FieldReader Draw} (member : f ∈ form.fields)
    {value : Value} {before after : Draw} (reads : f.read c value before = .ok after)
    (given : before.db.given = true) : after.db.given = true := by
  simp only [form, List.mem_cons, List.not_mem_nil, or_false] at member
  rcases member with rfl | rfl | rfl
  · obtain ⟨shape, -, rfl⟩ := map_ok_exact.mp reads
    exact given
  · obtain ⟨dryRun, -, rfl⟩ := map_ok_exact.mp reads
    exact given
  · obtain ⟨db, -, rfl⟩ := map_ok_exact.mp reads
    rfl

theorem form_fill_given {f : FieldReader Draw} (member : f ∈ form.fields) {fill : Draw → Draw} :
    f.absence ≠ .filled fill := by
  simp only [form, List.mem_cons, List.not_mem_nil, or_false] at member
  rcases member with rfl | rfl | rfl
  all_goals exact fun absence => nomatch absence

theorem readRequest_given {c : Context} {r : Request} {d : Draw}
    (read : readRequest c r = .ok d) : d.db.given = true := by
  obtain ⟨p, scanned, read⟩ := bind_ok_exact.mp read
  have scannedGiven : p.record.db.given = true :=
    Form.scan_keeps (P := fun d => d.db.given = true)
      (fun _ member _ _ _ reads => form_read_given member reads) scanned rfl
  split at read
  · cases read
  · obtain ⟨last, finished, read⟩ := bind_ok_exact.mp read
    have given : last.db.given = true :=
      Form.finish_keeps (P := fun d => d.db.given = true)
        (fun _ member _ filled => absurd filled (form_fill_given member)) finished scannedGiven
    split at read
    · cases read
      exact given
    · obtain ⟨ns, -, read⟩ := bind_ok_exact.mp read
      cases read
      exact given

theorem Made.given {d : Draw} (made : d.Made) : d.db.given = true := by
  induction made with
  | ofNamespace => rfl
  | setShape _ _ ih => exact ih
  | modifyShape _ _ ih => exact ih
  | setDryRun _ _ ih => exact ih
  | setDb => rfl
  | read read => exact readRequest_given read

structure Complete (d : Draw) : Prop where
  made : d.Made
  shape : d.shape.given = true
  drawable : d.shape.value.Complete
  collection : d.ns.coll ≠ ""
  database : d.db.value = d.ns.db

def fields (d : Draw) : Document :=
  [("shape", .document d.shape.value.elements)] ++
    (d.dryRun.toList.map fun b => ("dryRun", Value.bool b)) ++ [("$db", .string d.db.value)]

def elements (d : Draw) : Document :=
  ("draw", .string d.ns.coll) :: d.fields

-- What it passes on of others' elements: generic arguments that it does not write itself.
def passedOn (passed : Document) : Document :=
  passed.filter fun (name, _) => decide (name ∈ Record.genericArguments ∧ name ∉ knownFields)

theorem passedArguments_exact (passed : Document) :
    Record.passedArguments knownFields passed = passedOn passed := by
  apply List.filter_congr
  intro element _
  simp [Record.isGenericArgument]

theorem toRequest_complete {d : Draw} (complete : d.Complete) (passed : Document) :
    d.toRequest passed = .ok { body := d.elements ++ passedOn passed } := by
  unfold toRequest ownElements
  rw [complete.shape, complete.made.given, Shape.toDocument_complete complete.drawable,
    passedArguments_exact]
  rfl

theorem names_fields (d : Draw) :
    Document.names d.fields = ["shape", "$db"] ∨
      Document.names d.fields = ["shape", "dryRun", "$db"] := by
  obtain ⟨ns, shape, dryRun, db⟩ := d
  cases dryRun with
  | none => exact .inl rfl
  | some b => exact .inr rfl

theorem mem_names_passedOn {passed : Document} {name : String}
    (member : name ∈ Document.names (passedOn passed)) :
    name ∈ Record.genericArguments ∧ name ∉ knownFields := by
  obtain ⟨element, kept, rfl⟩ := List.mem_map.mp member
  obtain ⟨-, allowed⟩ := List.mem_filter.mp kept
  exact of_decide_eq_true allowed

theorem fills_fields {d : Draw} (complete : d.Complete) (c : Context) :
    Form.Fills form c (ofNamespace default) d.fields { d with ns := default } := by
  obtain ⟨ns, ⟨shape, _⟩, dryRun, ⟨db, _⟩⟩ := d
  obtain ⟨made, rfl, drawable, -, -⟩ := complete
  obtain rfl := made.given
  have shapeRead : Record.readNested Shape.read c "shape" (.document shape.elements) = .ok shape :=
    Shape.read_elements drawable _
  cases dryRun with
  | none =>
    exact .field rfl (FieldReader.of_read shapeRead _) (.field rfl (FieldReader.of_read rfl _) .nil)
  | some b =>
    exact .field rfl (FieldReader.of_read shapeRead _) (.field rfl (FieldReader.of_read rfl _)
      (.field rfl (FieldReader.of_read rfl _) .nil))

theorem scan_request {d : Draw} (complete : d.Complete) (passed : Document) (c : Context) :
    form.scan c (ofNamespace default) (d.fields ++ passedOn passed) =
      .ok { record := { d with ns := default }, met := (Document.names d.fields).reverse } := by
  have distinct : (Document.names d.fields).Nodup := by
    rcases d.names_fields with names | names
    all_goals
      rw [names]
      decide
  have own := Form.scan_fills [] (fills_fields complete c) distinct (by simp)
  have others (p : Form.Progress Draw) : (passedOn passed).foldlM (form.take c) p = .ok p := by
    apply Form.scan_lets rfl
    intro name member
    obtain ⟨generic, unknown⟩ := mem_names_passedOn member
    simp only [knownFields, List.mem_cons, List.not_mem_nil, or_false, not_or] at unknown
    refine ⟨?_, List.contains_iff_mem.mpr generic⟩
    simp [Form.field?, form, FieldReader.of, Ne.symm unknown.2.1, Ne.symm unknown.2.2.1,
      Ne.symm unknown.2.2.2]
  unfold Form.scan
  rw [List.foldlM_append, own, List.append_nil]
  exact others _

theorem finish_request (d : Draw) (c : Context) :
    form.finish c { record := { d with ns := default }, met := (Document.names d.fields).reverse } =
      .ok { d with ns := default } := by
  apply Form.finish_accepted
  intro f member
  simp only [form, List.mem_cons, List.not_mem_nil, or_false] at member
  rcases d.names_fields with names | names
  all_goals
    rw [names]
    rcases member with rfl | rfl | rfl
    · exact .inl (by simp [FieldReader.of])
    · exact .inr rfl
    · exact .inl (by simp [FieldReader.of])

theorem collection_complete {d : Draw} (complete : d.Complete) (c : Context) :
    c.collection d.db.value (.string d.ns.coll) = .ok d.ns := by
  have filled : d.ns.coll.isEmpty = false := by
    simpa using complete.collection
  rw [complete.database]
  show (if d.ns.coll.isEmpty then _ else _) = _
  rw [filled]
  rfl

theorem readRequest_complete {d : Draw} (complete : d.Complete) (passed : Document) (c : Context) :
    readRequest c { body := d.elements ++ passedOn passed } = .ok d := by
  unfold readRequest
  show (form.scan c (ofNamespace default) (d.fields ++ passedOn passed) >>= _) = _
  rw [scan_request complete passed c]
  show (form.finish c _ >>= _) = _
  rw [finish_request d c]
  show (c.collection d.db.value (.string d.ns.coll) >>= _) = _
  rw [collection_complete complete c]
  rfl

theorem count_database (d : Draw) (passed : Document) :
    (Document.names (d.elements ++ passedOn passed)).count "$db" = 1 := by
  have others : (Document.names (passedOn passed)).count "$db" = 0 := by
    apply List.count_eq_zero_of_not_mem
    intro member
    exact (mem_names_passedOn member).2 (by decide)
  have split : Document.names (d.elements ++ passedOn passed) =
      "draw" :: Document.names d.fields ++ Document.names (passedOn passed) := by
    simp [Document.names, elements]
  rw [split, List.count_append, others]
  rcases d.names_fields with names | names
  all_goals
    rw [names]
    decide

theorem request_round_trip {d : Draw} (complete : d.Complete) (passed : Document) :
    ∃ r, d.toRequest passed = .ok r ∧ (∀ c, readRequest c r = .ok d) ∧ r.sequences = [] ∧
      r.body.head? = some ("draw", .string d.ns.coll) ∧ (Document.names r.body).count "$db" = 1 ∧
      r.body = d.elements ++ passedOn passed :=
  ⟨_, toRequest_complete complete passed, readRequest_complete complete passed, rfl, rfl,
    count_database d passed, rfl⟩

def sketch : Draw := (withRequired ⟨"canvas", "sketches"⟩ bent).setDryRun (some true)

-- Another database, a repeated comment, and names that are the command's own or nobody's.
def crowd : Document :=
  [("$db", .string "admin"), ("comment", .int32 1), ("shape", .null), ("comment", .int32 2),
    ("draw", .null), ("unknown", .null)]

theorem request_round_trip_crowd :
    sketch.Complete ∧ ∃ r, sketch.toRequest crowd = .ok r ∧ (∀ c, readRequest c r = .ok sketch) ∧
      r.body = sketch.elements ++ [("comment", .int32 1), ("comment", .int32 2)] := by
  have bentComplete : bent.Complete := by
    refine ⟨rfl, rfl, rfl, ?_, by decide, by decide⟩
    intro p member
    simp only [bent, Shape.withRequired, Record.Slot.of, List.mem_cons, List.not_mem_nil,
      or_false] at member
    rcases member with rfl | rfl
    all_goals exact ⟨rfl, rfl⟩
  have complete : sketch.Complete :=
    ⟨.setDryRun (.setShape (.ofNamespace _) _) _, rfl, bentComplete, by decide, rfl⟩
  obtain ⟨r, written, read, -, -, -, body⟩ := request_round_trip complete crowd
  have kept : passedOn crowd = [("comment", .int32 1), ("comment", .int32 2)] := by
    simp [passedOn, crowd, Record.genericArguments, knownFields]
  exact ⟨complete, r, written, read, kept ▸ body⟩

end WireSchema.Canvas.Draw
