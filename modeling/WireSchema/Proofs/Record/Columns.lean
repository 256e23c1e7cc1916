import Mathlib.Data.List.Forall2
import Mathlib.Data.List.Nodup
import WireSchema.Proofs.Record.Strict

namespace WireSchema.Record

open Bson (Document Value)

-- A column says of one field what its values denote, what member a value or its absence makes, and
-- where the record keeps it.

structure Column (σ : Type) where
  name : String
  Decoded : Type
  Member : Type
  Denotes : Value → Decoded → Prop
  -- The member for a value, or for none; no member means that the field is required.
  make : Option Decoded → Option Member
  get : σ → Member

namespace Column

variable {σ α : Type}

def required (name : String) (get : σ → Slot α) (Denotes : Value → α → Prop) : Column σ :=
  { name, Decoded := α, Member := Slot α, Denotes, make := Option.map Slot.of, get }

def optional (name : String) (get : σ → Option α) (Denotes : Value → α → Prop) : Column σ :=
  { name, Decoded := α, Member := Option α, Denotes, make := some, get }

def defaulted (name : String) (get : σ → α) (default : α) (Denotes : Value → α → Prop) : Column σ :=
  { name, Decoded := α, Member := α, Denotes, make := fun told => some (told.getD default), get }

end Column

inductive Tells {α : Type} (d : Document) (name : String) (Denotes : Value → α → Prop) :
    Option α → Prop where
  | given {value : Value} {a : α} (here : (name, value) ∈ d) (denotes : Denotes value a) :
      Tells d name Denotes (some a)
  | absent (missing : name ∉ Document.names d) : Tells d name Denotes none

def Column.Holds {σ : Type} (column : Column σ) (d : Document) (record : σ) : Prop :=
  ∃ told, Tells d column.name column.Denotes told ∧ column.make told = some (column.get record)

structure Describes {σ : Type} (columns : List (Column σ)) (d : Document) (record : σ) : Prop where
  distinct : (Document.names d).Nodup
  declared : ∀ name ∈ Document.names d, name ∈ columns.map (·.name)
  each : ∀ column ∈ columns, column.Holds d record

section

variable {α : Type} {d d' : Document} {name : String} {Denotes : Value → α → Prop}

theorem mem_names {value : Value} (here : (name, value) ∈ d) : name ∈ Document.names d :=
  List.mem_map_of_mem (f := Prod.fst) here

theorem value_unique (distinct : (Document.names d).Nodup) {one other : Value}
    (first : (name, one) ∈ d) (second : (name, other) ∈ d) : one = other := by
  have same := List.inj_on_of_nodup_map distinct first second rfl
  exact congrArg Prod.snd same

theorem Tells.unique (distinct : (Document.names d).Nodup)
    (functional : ∀ value a b, Denotes value a → Denotes value b → a = b) {one other : Option α}
    (first : Tells d name Denotes one) (second : Tells d name Denotes other) : one = other := by
  cases first with
  | given here denotes =>
    cases second with
    | given there denoted =>
      cases value_unique distinct here there
      exact congrArg some (functional _ _ _ denotes denoted)
    | absent missing => exact absurd (mem_names here) missing
  | absent missing =>
    cases second with
    | given there => exact absurd (mem_names there) missing
    | absent => rfl

theorem Tells.perm (order : d.Perm d') {told : Option α} (tells : Tells d name Denotes told) :
    Tells d' name Denotes told := by
  cases tells with
  | given here denotes => exact .given (order.mem_iff.mp here) denotes
  | absent missing => exact .absent (mt (order.map Prod.fst).mem_iff.mpr missing)

theorem Describes.perm {σ : Type} {columns : List (Column σ)} {record : σ} (order : d.Perm d')
    (describes : Describes columns d record) : Describes columns d' record where
  distinct := (order.map Prod.fst).nodup_iff.mp describes.distinct
  declared name member := describes.declared name ((order.map Prod.fst).mem_iff.mpr member)
  each column member := by
    obtain ⟨told, tells, made⟩ := describes.each column member
    exact ⟨told, tells.perm order, made⟩

end

structure FieldReader.Fits {σ : Type} (f : FieldReader σ) (start : σ) (column : Column σ) :
    Prop where
  name : f.name = column.name
  even : f.Even
  located : ∀ c value record e, f.read c value record = .error e → e.Under c
  reads : ∀ c value before after, f.read c value before = .ok after →
    ∃ a, column.Denotes value a ∧ column.make (some a) = some (column.get after)
  denotes : ∀ c value a, column.Denotes value a →
    ∀ before, ∃ after, f.read c value before = .ok after
  functional : ∀ value a b, column.Denotes value a → column.Denotes value b → a = b
  refused : f.absence = .refused → column.make none = none
  accepted : f.absence = .accepted → column.make none = some (column.get start)
  filled : ∀ fill, f.absence = .filled fill →
    ∀ record, column.make none = some (column.get (fill record))

structure FieldReader.Keeps {σ μ : Type} (f : FieldReader σ) (get : σ → μ) : Prop where
  reads : ∀ c value before after, f.read c value before = .ok after → get after = get before
  fills : ∀ fill, f.absence = .filled fill → ∀ record, get (fill record) = get record

namespace Form

variable {σ : Type} {form : Form σ} {c : Context} {d : Document} {start : σ} {e : Fault}

theorem Clear.declared (closed : ∀ name, form.lets name = false) (clear : form.Clear c d)
    {name : String} (member : name ∈ Document.names d) : ∃ f, form.field? name = some f := by
  apply Option.ne_none_iff_exists'.mp
  intro undeclared
  have lets := clear.lets member undeclared
  rw [closed] at lets
  cases lets

theorem Clear.distinct (closed : ∀ name, form.lets name = false) (clear : form.Clear c d) :
    (Document.names d).Nodup := by
  rw [List.nodup_iff_count_le_one]
  intro name
  by_cases member : name ∈ Document.names d
  · obtain ⟨f, declared⟩ := clear.declared closed member
    exact clear.once declared
  · simp [List.count_eq_zero_of_not_mem member]

-- The fields of a form are its columns one by one, and the columns are all there is to a record.
structure Realises (form : Form σ) (start : σ) (columns : List (Column σ)) : Prop where
  strict : form.strict = true
  closed : ∀ name, form.lets name = false
  distinct : (columns.map (·.name)).Nodup
  fits : List.Forall₂ (fun f column => f.Fits start column) form.fields columns
  apart : ∀ f ∈ form.fields, ∀ column ∈ columns, f.name ≠ column.name → f.Keeps column.get
  determined : ∀ one other, (∀ column ∈ columns, column.get one = column.get other) → one = other

section

variable {columns : List (Column σ)} {column : Column σ} {p : Progress σ} {record : σ}

theorem Realises.names (realises : form.Realises start columns) :
    form.fields.map (·.name) = columns.map (·.name) := by
  rw [← List.forall₂_eq_eq_eq, List.forall₂_map_left_iff, List.forall₂_map_right_iff]
  exact realises.fits.imp fun _ _ fits => fits.name

theorem Realises.sound (realises : form.Realises start columns) : form.Sound where
  strict := realises.strict
  distinct := realises.names ▸ realises.distinct
  even f field := by
    obtain ⟨column, -, fits⟩ := forall₂_left realises.fits field
    exact fits.even

theorem Realises.field (realises : form.Realises start columns) (member : column ∈ columns) :
    ∃ f ∈ form.fields, f.name = column.name := by
  have named : column.name ∈ form.fields.map (·.name) := by
    rw [realises.names]
    exact List.mem_map_of_mem member
  simpa using named

-- Names tell the columns apart, so a field of a column's name is the column's field.
theorem Realises.fits_of_name (realises : form.Realises start columns) {f : FieldReader σ}
    (field : f ∈ form.fields) (member : column ∈ columns) (named : f.name = column.name) :
    f.Fits start column := by
  obtain ⟨other, there, fits⟩ := forall₂_left realises.fits field
  have same : other = column :=
    List.inj_on_of_nodup_map realises.distinct there member (fits.name.symm.trans named)
  exact same ▸ fits

theorem Realises.scan_member (realises : form.Realises start columns) (member : column ∈ columns)
    (scanned : form.scan c start d = .ok p) :
    (column.name ∉ Document.names d → column.get p.record = column.get start) ∧
      ∀ value, (column.name, value) ∈ d →
        ∃ a, column.Denotes value a ∧ column.make (some a) = some (column.get p.record) := by
  have distinct := (realises.sound.scan_ok_exact.mp ⟨p, scanned⟩).distinct realises.closed
  have general (d : Document) (q : Progress σ) (ran : d.foldlM (form.take c) q = .ok p)
      (distinct : (Document.names d).Nodup) :
      (column.name ∉ Document.names d → column.get p.record = column.get q.record) ∧
        ∀ value, (column.name, value) ∈ d →
          ∃ a, column.Denotes value a ∧ column.make (some a) = some (column.get p.record) := by
    induction d generalizing q with
    | nil =>
      cases ran
      simp
    | cons element rest ih =>
      rw [List.foldlM_cons] at ran
      obtain ⟨next, taken, ran⟩ := bind_ok_exact.mp ran
      obtain ⟨alone, distinct⟩ := List.nodup_cons.mp distinct
      obtain ⟨untouched, touched⟩ := ih next ran distinct
      have step := realises.sound.take_step c q element
      rw [taken] at step
      cases step with
      | passed _ lets => simp [realises.closed] at lets
      | @taken name value f record declared _ reads =>
        obtain ⟨field, rfl⟩ := field?_parts declared
        by_cases own : f.name = column.name
        · obtain ⟨a, denotes, made⟩ :=
            (realises.fits_of_name field member own).reads c value q.record record reads
          have after : column.get p.record = column.get record := untouched (own ▸ alone)
          refine ⟨fun missing => absurd ?_ missing, ?_⟩
          · simp [Document.names, own]
          · intro other here
            rcases List.mem_cons.mp here with same | later
            · obtain ⟨-, rfl⟩ := Prod.mk.inj same
              exact ⟨a, denotes, after ▸ made⟩
            · exact absurd (mem_names later) (own ▸ alone)
        · have kept : column.get record = column.get q.record :=
            (realises.apart f field column member own).reads c value q.record record reads
          refine ⟨fun missing => ?_, ?_⟩
          · exact (untouched fun later => missing (List.mem_cons_of_mem _ later)).trans kept
          · intro other here
            rcases List.mem_cons.mp here with same | later
            · exact absurd (Prod.mk.inj same).1.symm own
            · exact touched other later
  exact general d _ scanned distinct

theorem accounts_keep {μ : Type} {get : σ → μ} {met : List String} {fields : List (FieldReader σ)}
    {before after : σ} (each : ∀ f ∈ fields, f.name ∈ met ∨ f.Keeps get)
    (ran : fields.foldlM (account c met) before = .ok after) : get after = get before := by
  induction fields generalizing before with
  | nil =>
    cases ran
    rfl
  | cons f rest ih =>
    obtain ⟨here, others⟩ := List.forall_mem_cons.mp each
    rw [List.foldlM_cons] at ran
    obtain ⟨next, accounted, ran⟩ := bind_ok_exact.mp ran
    refine (ih others ran).trans ?_
    by_cases present : f.name ∈ met
    · rw [account_met present] at accounted
      cases accounted
      rfl
    · rw [account, if_neg (by simpa using present)] at accounted
      split at accounted
      · cases accounted
      · cases accounted
        rfl
      · rename_i fill filled
        cases accounted
        exact (here.resolve_left present).fills fill filled before

theorem Realises.finish_member (realises : form.Realises start columns) (member : column ∈ columns)
    (finished : form.finish c p = .ok record) :
    (column.name ∈ p.met → column.get record = column.get p.record) ∧
      (column.name ∉ p.met → column.get p.record = column.get start →
        column.make none = some (column.get record)) := by
  have keeps {g : FieldReader σ} (field : g ∈ form.fields) (other : g.name ≠ column.name) :
      g.name ∈ p.met ∨ g.Keeps column.get := .inr (realises.apart g field column member other)
  constructor
  · intro present
    refine accounts_keep (fun g field => ?_) finished
    by_cases own : g.name = column.name
    · exact .inl (own ▸ present)
    · exact keeps field own
  · intro missing initial
    obtain ⟨f, field, named⟩ := realises.field member
    have fits := realises.fits_of_name field member named
    have distinct := realises.sound.distinct
    rw [finish_account] at finished
    obtain ⟨before, after, parts⟩ := List.append_of_mem field
    rw [parts] at finished distinct
    obtain ⟨middle, next, first, here, last⟩ := foldlM_ok_parts finished
    simp only [List.map_append, List.map_cons] at distinct
    have earlier : column.get middle = column.get start := by
      refine (accounts_keep (fun g there => keeps (by simp [parts, there]) ?_) first).trans initial
      intro own
      exact List.disjoint_of_nodup_append distinct (List.mem_map_of_mem there)
        (by simp [own, named])
    have later : column.get record = column.get next := by
      refine accounts_keep (fun g there => keeps (by simp [parts, there]) ?_) last
      intro own
      have alone := (List.nodup_cons.mp (List.Nodup.of_append_right distinct)).1
      exact alone (List.mem_map.mpr ⟨g, there, own.trans named.symm⟩)
    rw [account, if_neg (by simpa [named] using missing)] at here
    split at here
    · cases here
    · rename_i accepted
      cases here
      rw [later, earlier]
      exact fits.accepted accepted
    · rename_i fill filled
      cases here
      rw [later]
      exact fits.filled fill filled middle

theorem Realises.describes (realises : form.Realises start columns)
    (read : form.read c start d = .ok record) : Describes columns d record := by
  obtain ⟨p, scanned, finished⟩ := bind_ok_exact.mp read
  have clear := realises.sound.scan_ok_exact.mp ⟨p, scanned⟩
  refine ⟨clear.distinct realises.closed, ?_, ?_⟩
  · intro name member
    obtain ⟨f, declared⟩ := clear.declared realises.closed member
    obtain ⟨field, named⟩ := field?_parts declared
    rw [← realises.names, ← named]
    exact List.mem_map_of_mem field
  · intro column member
    obtain ⟨f, field, named⟩ := realises.field member
    obtain ⟨untouched, touched⟩ := realises.scan_member member scanned
    obtain ⟨stays, made⟩ := realises.finish_member member finished
    have met := named ▸ realises.sound.scan_met scanned field
    by_cases present : column.name ∈ Document.names d
    · obtain ⟨⟨_, value⟩, here, same⟩ := List.mem_map.mp present
      have here : (column.name, value) ∈ d := same ▸ here
      obtain ⟨a, denotes, filled⟩ := touched value here
      exact ⟨some a, .given here denotes, stays (met.mpr present) ▸ filled⟩
    · exact ⟨none, .absent present, made (mt met.mp present) (untouched present)⟩

theorem Realises.clear (realises : form.Realises start columns)
    (describes : Describes columns d record) : form.Clear c d := by
  rintro before ⟨name, value⟩ after rfl e refused
  have here : (name, value) ∈ before ++ (name, value) :: after := by simp
  have declared := describes.declared name (mem_names here)
  cases refused with
  | unknown undeclared =>
    rw [← realises.names] at declared
    obtain ⟨f, field, named⟩ := List.mem_map.mp declared
    exact field?_none.mp undeclared f field named
  | repeated _ again =>
    have distinct := describes.distinct
    simp only [Document.names, List.map_append, List.map_cons] at distinct
    exact (List.disjoint_of_nodup_append distinct) again List.mem_cons_self
  | undecodable found _ fails =>
    obtain ⟨field, named⟩ := field?_parts found
    obtain ⟨column, member, rfl⟩ := List.mem_map.mp declared
    obtain ⟨told, tells, -⟩ := describes.each column member
    cases tells with
    | absent missing => exact missing (mem_names here)
    | given there denotes =>
      cases value_unique describes.distinct here there
      obtain ⟨after, reads⟩ :=
        (realises.fits_of_name field member named).denotes c value _ denotes start
      cases reads.symm.trans (fails start)

theorem Realises.unique (realises : form.Realises start columns) {one other : σ}
    (first : Describes columns d one) (second : Describes columns d other) : one = other := by
  apply realises.determined
  intro column member
  obtain ⟨f, field, named⟩ := realises.field member
  have fits := realises.fits_of_name field member named
  obtain ⟨told, tells, made⟩ := first.each column member
  obtain ⟨again, repeats, remade⟩ := second.each column member
  cases tells.unique first.distinct fits.functional repeats
  exact Option.some.inj (made.symm.trans remade)

theorem Realises.read_ok_exact (realises : form.Realises start columns) :
    form.read c start d = .ok record ↔ Describes columns d record := by
  refine ⟨realises.describes, fun describes => ?_⟩
  obtain ⟨p, scanned⟩ : ∃ p, form.scan c start d = .ok p :=
    realises.sound.scan_ok_exact.mpr (realises.clear describes)
  have present : ∀ f ∈ form.fields, f.absence = .refused → f.name ∈ p.met := by
    intro f field refused
    obtain ⟨column, member, fits⟩ := forall₂_left realises.fits field
    obtain ⟨told, tells, made⟩ := describes.each column member
    rw [realises.sound.scan_met scanned field, fits.name]
    cases tells with
    | given here => exact mem_names here
    | absent => simp [fits.refused refused] at made
  obtain ⟨other, finished⟩ := accounts_ok_exact.mpr present
  have read : form.read c start d = .ok other := bind_ok_exact.mpr ⟨p, scanned, finished⟩
  rw [realises.unique describes (realises.describes read)]
  exact read

end

end Form

end WireSchema.Record
