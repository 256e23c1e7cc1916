import Mathlib.Data.List.Perm.Basic
import WireSchema.Proofs.Record.Columns

namespace WireSchema.Record

open Bson (Document Value)

-- A record whose columns are those of two others is described by a document exactly if each of the
-- two is by its part of the elements, in whatever way the parts are mixed.

section

variable {d : Document}

def inside (names : List String) (d : Document) : Document :=
  d.filter fun element => names.contains element.1

def outside (names : List String) (d : Document) : Document :=
  d.filter fun element => !names.contains element.1

theorem names_filter {p : String → Bool} :
    Document.names (d.filter fun element => p element.1) = (Document.names d).filter p := by
  unfold Document.names
  rw [List.filter_map]
  rfl

theorem mem_names_inside {names : List String} {name : String} :
    name ∈ Document.names (inside names d) ↔ name ∈ Document.names d ∧ name ∈ names := by
  rw [inside, names_filter (p := names.contains), List.mem_filter, List.contains_iff_mem]

theorem mem_names_outside {names : List String} {name : String} :
    name ∈ Document.names (outside names d) ↔ name ∈ Document.names d ∧ name ∉ names := by
  rw [outside, names_filter (p := fun name => !names.contains name), List.mem_filter]
  simp

theorem distinct_parts (names : List String) : (Document.names d).Nodup ↔
    (Document.names (outside names d)).Nodup ∧ (Document.names (inside names d)).Nodup := by
  have apart : (Document.names (inside names d)).Disjoint (Document.names (outside names d)) :=
    fun _ here there => (mem_names_outside.mp there).2 (mem_names_inside.mp here).2
  have together : (Document.names (inside names d) ++ Document.names (outside names d)).Perm
      (Document.names d) := by
    rw [inside, outside, names_filter (p := names.contains),
      names_filter (p := fun name => !names.contains name)]
    exact List.filter_append_perm ..
  rw [← together.nodup_iff, List.nodup_append']
  tauto

end

section

variable {σ : Type} {form : Form σ} {c : Context} {d : Document} {start record : σ}

def Form.own (form : Form σ) (d : Document) : Document :=
  inside (form.fields.map (·.name)) d

def Form.pour (form : Form σ) (c : Context) (record : σ) (element : String × Value) :
    Except Fault σ :=
  match form.field? element.1 with
  | some f => f.read c element.2 record
  | none => .ok record

namespace Form

-- Every name is remembered, and only then does it matter whether it is a field's.
theorem take_lenient (lenient : form.strict = false) {p next : Progress σ}
    {element : String × Value} :
    form.take c p element = .ok next ↔ element.1 ∉ p.met ∧
      ∃ record, form.pour c p.record element = .ok record ∧
        next = { record, met := element.1 :: p.met } := by
  unfold take pour
  simp only [lenient]
  by_cases again : element.1 ∈ p.met
  · simp [again]
  · rw [if_neg (by simpa using again)]
    cases form.field? element.1 with
    | none => simp [again, eq_comm]
    | some f =>
      rw [map_ok_exact]
      simp [again, eq_comm]

theorem scan_lenient (lenient : form.strict = false) {p q : Progress σ} :
    d.foldlM (form.take c) p = .ok q ↔
      (Document.names d).Nodup ∧ (∀ name ∈ Document.names d, name ∉ p.met) ∧
        ∃ record, d.foldlM (form.pour c) p.record = .ok record ∧
          q = { record, met := (Document.names d).reverse ++ p.met } := by
  induction d generalizing p with
  | nil => simp [Document.names, pure, Except.pure, eq_comm]
  | cons element rest ih =>
    have names : Document.names (element :: rest) = element.1 :: Document.names rest := rfl
    rw [names, List.nodup_cons, List.forall_mem_cons, List.foldlM_cons, List.foldlM_cons,
      bind_ok_exact]
    constructor
    · rintro ⟨next, taken, ran⟩
      obtain ⟨fresh, middle, poured, rfl⟩ := (take_lenient lenient).mp taken
      obtain ⟨distinct, unmet, record, others, rfl⟩ := ih.mp ran
      refine ⟨⟨fun again => unmet _ again List.mem_cons_self, distinct⟩,
        ⟨fresh, fun name member met => unmet name member (List.mem_cons_of_mem _ met)⟩,
        record, bind_ok_exact.mpr ⟨middle, poured, others⟩, ?_⟩
      simp
    · rintro ⟨⟨alone, distinct⟩, ⟨fresh, unmet⟩, record, ran, rfl⟩
      obtain ⟨middle, poured, others⟩ := bind_ok_exact.mp ran
      refine ⟨_, (take_lenient lenient).mpr ⟨fresh, middle, poured, rfl⟩, ih.mpr ⟨distinct, ?_,
        record, others, by simp⟩⟩
      intro name member met
      rcases List.mem_cons.mp met with rfl | before
      · exact alone member
      · exact unmet name member before

theorem pour_own : (form.own d).foldlM (form.pour c) record = d.foldlM (form.pour c) record := by
  induction d generalizing record with
  | nil => rfl
  | cons element rest ih =>
    unfold own inside
    rw [List.foldlM_cons]
    by_cases known : element.1 ∈ form.fields.map (·.name)
    · rw [List.filter_cons_of_pos (by simpa using known), List.foldlM_cons]
      exact congrArg _ (funext fun _ => ih)
    · have undeclared : form.field? element.1 = none :=
        field?_none.mpr fun f member named => known (named ▸ List.mem_map_of_mem member)
      rw [List.filter_cons_of_neg (by simpa using known), pour, undeclared]
      exact ih

theorem finish_congr {met other : List String}
    (same : ∀ f ∈ form.fields, f.name ∈ met ↔ f.name ∈ other) :
    form.finish c { record, met } = form.finish c { record, met := other } := by
  show form.fields.foldlM (account c met) record = form.fields.foldlM (account c other) record
  generalize form.fields = fields at same
  induction fields generalizing record with
  | nil => rfl
  | cons f rest ih =>
    obtain ⟨here, others⟩ := List.forall_mem_cons.mp same
    have alike : account c met record f = account c other record f := by
      unfold account
      simp only [List.contains_iff_mem, here]
    rw [List.foldlM_cons, List.foldlM_cons, alike]
    exact congrArg _ (funext fun _ => ih others)

theorem read_lenient (lenient : form.strict = false) :
    form.read c start d = .ok record ↔ (Document.names d).Nodup ∧
      ∃ middle, d.foldlM (form.pour c) start = .ok middle ∧
        form.finish c { record := middle, met := Document.names d } = .ok record := by
  have accounted {middle : σ} : form.finish c { record := middle, met := Document.names d } =
      form.finish c { record := middle, met := (Document.names d).reverse ++ [] } :=
    finish_congr fun f _ => by simp
  unfold read scan
  rw [bind_ok_exact]
  constructor
  · rintro ⟨p, scanned, finished⟩
    obtain ⟨distinct, -, middle, poured, rfl⟩ := (scan_lenient lenient).mp scanned
    exact ⟨distinct, middle, poured, accounted.trans finished⟩
  · rintro ⟨distinct, middle, poured, finished⟩
    exact ⟨_, (scan_lenient lenient).mpr ⟨distinct, by simp, middle, poured, rfl⟩,
      accounted.symm.trans finished⟩

theorem read_own (lenient : form.strict = false) :
    form.read c start d = .ok record ↔
      (Document.names d).Nodup ∧ form.read c start (form.own d) = .ok record := by
  have kept {middle : σ} :
      form.finish c { record := middle, met := Document.names (form.own d) } =
        form.finish c { record := middle, met := Document.names d } :=
    finish_congr fun f member =>
      mem_names_inside.trans (and_iff_left (List.mem_map_of_mem member))
  rw [read_lenient lenient, read_lenient lenient]
  constructor
  · rintro ⟨distinct, middle, poured, finished⟩
    exact ⟨distinct, ((distinct_parts _).mp distinct).2, middle, pour_own.trans poured,
      kept.trans finished⟩
  · rintro ⟨distinct, -, middle, poured, finished⟩
    exact ⟨distinct, middle, pour_own.symm.trans poured, kept.symm.trans finished⟩

end Form

end

section

variable {σ τ : Type} {d : Document}

def Column.within (column : Column τ) (part : σ → τ) : Column σ :=
  { column with get := fun record => column.get (part record) }

theorem describes_within {columns : List (Column τ)} {part : σ → τ} {record : σ} :
    Describes (columns.map (·.within part)) d record ↔ Describes columns d (part record) := by
  have names : (columns.map (·.within part)).map (·.name) = columns.map (·.name) := by
    rw [List.map_map]
    rfl
  constructor
  · intro describes
    refine ⟨describes.distinct, names ▸ describes.declared, fun column member => ?_⟩
    exact describes.each _ (List.mem_map_of_mem member)
  · intro describes
    refine ⟨describes.distinct, names.symm ▸ describes.declared, fun column member => ?_⟩
    obtain ⟨inner, there, rfl⟩ := List.mem_map.mp member
    exact describes.each inner there

theorem tells_filter {p : String → Bool} {name : String} (kept : p name = true) {α : Type}
    {Denotes : Value → α → Prop} {told : Option α} :
    Tells (d.filter fun element => p element.1) name Denotes told ↔
      Tells d name Denotes told := by
  have same : name ∈ Document.names (d.filter fun element => p element.1) ↔
      name ∈ Document.names d := by
    rw [names_filter, List.mem_filter]
    exact and_iff_left kept
  constructor
  · intro tells
    cases tells with
    | given here denotes => exact .given (List.mem_filter.mp here).1 denotes
    | absent missing => exact .absent (mt same.mpr missing)
  · intro tells
    cases tells with
    | given here denotes => exact .given (List.mem_filter.mpr ⟨here, kept⟩) denotes
    | absent missing => exact .absent (mt same.mp missing)

theorem describes_append {as bs : List (Column σ)} {record : σ}
    (apart : ∀ a ∈ as, a.name ∉ bs.map (·.name)) :
    Describes (as ++ bs) d record ↔ Describes as (outside (bs.map (·.name)) d) record ∧
      Describes bs (inside (bs.map (·.name)) d) record := by
  generalize taken : bs.map (·.name) = names at apart ⊢
  have first (a : Column σ) (member : a ∈ as) :
      a.Holds (outside names d) record ↔ a.Holds d record := by
    have kept : (!names.contains a.name) = true := by simpa using apart a member
    unfold Column.Holds outside
    simp only [tells_filter (p := fun name => !names.contains name) kept]
  have second (b : Column σ) (member : b ∈ bs) :
      b.Holds (inside names d) record ↔ b.Holds d record := by
    have kept : names.contains b.name = true := by
      rw [List.contains_iff_mem, ← taken]
      exact List.mem_map_of_mem member
    unfold Column.Holds inside
    simp only [tells_filter (p := names.contains) kept]
  constructor
  · intro describes
    obtain ⟨others, own⟩ := (distinct_parts names).mp describes.distinct
    have declared (name : String) (member : name ∈ Document.names d) :
        name ∈ as.map (·.name) ∨ name ∈ names := by
      rw [← taken, ← List.mem_append, ← List.map_append]
      exact describes.declared name member
    refine ⟨⟨others, fun name member => ?_, fun a member => ?_⟩,
      ⟨own, fun name member => ?_, fun b member => ?_⟩⟩
    · obtain ⟨here, other⟩ := mem_names_outside.mp member
      exact (declared name here).resolve_right other
    · exact (first a member).mpr (describes.each a (List.mem_append_left _ member))
    · rw [taken]
      exact (mem_names_inside.mp member).2
    · exact (second b member).mpr (describes.each b (List.mem_append_right _ member))
  · rintro ⟨one, other⟩
    refine ⟨(distinct_parts names).mpr ⟨one.distinct, other.distinct⟩, ?_, ?_⟩
    · intro name member
      rw [List.map_append, taken, List.mem_append]
      by_cases own : name ∈ names
      · exact .inr own
      · exact .inl (one.declared name (mem_names_outside.mpr ⟨member, own⟩))
    · intro column member
      rcases List.mem_append.mp member with here | there
      · exact (first column here).mp (one.each column here)
      · exact (second column there).mp (other.each column there)

theorem describes_required {α : Type} {name : String} {get : σ → Slot α}
    {Denotes : Value → α → Prop} {record : σ} :
    Describes [.required name get Denotes] d record ↔
      ∃ value a, d = [(name, value)] ∧ Denotes value a ∧ get record = .of a := by
  constructor
  · intro describes
    obtain ⟨told, tells, made⟩ := describes.each _ List.mem_cons_self
    cases tells with
    | absent => cases made
    | @given value a here denotes =>
      refine ⟨value, a, ?_, denotes, (Option.some.inj made).symm⟩
      have only : ∀ element ∈ d, element = (name, value) := by
        intro element member
        have named : element.1 = name :=
          List.mem_singleton.mp (describes.declared element.1 (mem_names member))
        exact Prod.ext named (value_unique describes.distinct (named ▸ member) here)
      have distinct : d.Nodup := describes.distinct.of_map _
      apply List.perm_singleton.mp
      apply (List.perm_ext_iff_of_nodup distinct (List.nodup_singleton _)).mpr
      intro element
      rw [List.mem_singleton]
      exact ⟨only element, fun same => same ▸ here⟩
  · rintro ⟨value, a, rfl, denotes, given⟩
    refine ⟨List.nodup_singleton _, fun _ member => member, fun column member => ?_⟩
    cases List.mem_singleton.mp member
    exact ⟨some a, .given List.mem_cons_self denotes, congrArg some given.symm⟩

end

end WireSchema.Record
