import WireSchema.Proofs.Record.Columns

namespace WireSchema.Record

open Bson (Document Kind Value)

-- A fault of a decoder names a field below the place where it ran.

structure Decodes {α : Type} (decode : Context → String → Value → Except Fault α)
    (Denotes : Value → α → Prop) : Prop where
  exact : ∀ c name value a, decode c name value = .ok a ↔ Denotes value a
  located : ∀ c name value e, decode c name value = .error e → e.Under c

structure Reads {σ : Type} (read : Context → Document → Except Fault σ)
    (columns : List (Column σ)) : Prop where
  exact : ∀ c d record, read c d = .ok record ↔ Describes columns d record
  located : ∀ c d e, read c d = .error e → e.Under c

def IsInt32 (value : Value) (n : Int32) : Prop := value = .int32 n

def IsDouble (value : Value) (x : Double) : Prop := value = .double x

def IsText (value : Value) (text : String) : Prop := value = .string text

def IsRecord {σ : Type} (columns : List (Column σ)) (value : Value) (record : σ) : Prop :=
  ∃ d, value = .document d ∧ Describes columns d record

inductive Lists {α : Type} (Item : Value → α → Prop) : Nat → Document → List α → Prop where
  | nil {position : Nat} : Lists Item position [] []
  | cons {position : Nat} {key : String} {value : Value} {rest : Document} {a : α} {items : List α}
      (counts : arrayPosition? key = some position) (first : Item value a)
      (others : Lists Item (position + 1) rest items) :
      Lists Item position ((key, value) :: rest) (a :: items)

def IsArray {α : Type} (Item : Value → α → Prop) (value : Value) (items : List α) : Prop :=
  ∃ d, value = .array d ∧ Lists Item 0 d items

section

variable {α σ : Type} {c : Context} {name : String} {value : Value} {kind : Kind} {e : Fault}

theorem expectKind_located (failed : c.expectKind name value kind = .error e) : e.Under c := by
  unfold Context.expectKind Context.expectKinds at failed
  split at failed
  · cases failed
  · cases failed
    exact ⟨name, rfl⟩

theorem expectKind_bind {next : Unit → Except Fault α} {a : α} :
    (c.expectKind name value kind >>= next) = .ok a ↔ value.kind = kind ∧ next () = .ok a := by
  rw [check_bind_exact, Context.expectKind, Context.expectKinds_exact, List.mem_singleton]

theorem expectKind_bind_located {next : Unit → Except Fault α}
    (after : next () = .error e → e.Under c)
    (failed : (c.expectKind name value kind >>= next) = .error e) : e.Under c := by
  rcases bind_error_exact.mp failed with wrong | ⟨⟨⟩, -, failed⟩
  · exact expectKind_located wrong
  · exact after failed

theorem decodes_kind {kind : Kind} {get : Value → α} (write : α → Value)
    (written : ∀ value a, value.kind = kind ∧ get value = a ↔ value = write a) :
    Decodes (fun c name value => do c.expectKind name value kind; return get value)
      (fun value a => value = write a) where
  exact c name value a := by
    rw [expectKind_bind, ← written]
    exact and_congr_right fun _ => Except.ok.injEq .. |>.to_iff
  located c name value e failed := by
    refine expectKind_bind_located ?_ failed
    intro done
    cases done

theorem readInt32_decodes : Decodes readInt32 IsInt32 :=
  decodes_kind .int32 fun value n => by
    cases value <;> simp [Value.kind, Value.asInt32]

theorem readDouble_decodes : Decodes readDouble IsDouble :=
  decodes_kind .double fun value n => by
    cases value <;> simp [Value.kind, Value.asDouble]

theorem readText_decodes : Decodes readText IsText :=
  decodes_kind .string fun value n => by
    cases value <;> simp [Value.kind, Value.asString]

theorem readNested_decodes {read : Context → Document → Except Fault σ}
    {columns : List (Column σ)} (reads : Reads read columns) :
    Decodes (readNested read) (IsRecord columns) where
  exact c name value record := by
    unfold readNested
    rw [expectKind_bind, reads.exact]
    constructor
    · rintro ⟨kind, describes⟩
      cases value with
      | document d => exact ⟨d, rfl, describes⟩
      | _ => cases kind
    · rintro ⟨d, rfl, describes⟩
      exact ⟨rfl, describes⟩
  located c name value e failed :=
    expectKind_bind_located (fun failed => (reads.located _ _ _ failed).outer) failed

end

section

variable {α : Type} {item : Context → String → Value → Except Fault α} {Item : Value → α → Prop}
  {c : Context} {position : Nat} {d : Document}

theorem readItems_exact (decodes : Decodes item Item) {items : List α} :
    readItems c item position d = .ok items ↔ Lists Item position d items := by
  induction d generalizing position items with
  | nil =>
    constructor
    · intro read
      cases read
      exact .nil
    · intro lists
      cases lists
      rfl
  | cons element rest ih =>
    rw [readItems_cons, bind_ok_exact]
    constructor
    · rintro ⟨a, first, read⟩
      obtain ⟨others, after, read⟩ := bind_ok_exact.mp read
      cases read
      obtain ⟨counted, decoded⟩ := readItem_ok_exact.mp first
      exact .cons counted ((decodes.exact ..).mp decoded) (ih.mp after)
    · intro lists
      cases lists with
      | cons counts first others =>
        refine ⟨_, readItem_ok_exact.mpr ⟨counts, (decodes.exact ..).mpr first⟩, ?_⟩
        exact bind_ok_exact.mpr ⟨_, ih.mpr others, rfl⟩

theorem readItem_located (decodes : Decodes item Item) {name : String}
    {element : String × Value} {e : Fault}
    (failed : readItem item (c.child name) position element = .error e) : e.Under c := by
  unfold readItem at failed
  split at failed
  · cases failed
    exact ⟨name, congrArg some (c.path_child name)⟩
  · split at failed
    · exact (decodes.located _ _ _ _ failed).outer
    · cases failed
      exact ⟨name, congrArg some (c.path_child name)⟩

theorem readItems_located (decodes : Decodes item Item) {name : String} {e : Fault}
    (failed : readItems (c.child name) item position d = .error e) : e.Under c := by
  induction d generalizing position with
  | nil => cases failed
  | cons element rest ih =>
    rw [readItems_cons] at failed
    rcases bind_error_exact.mp failed with failed | ⟨a, -, failed⟩
    · exact readItem_located decodes failed
    · exact ih (bind_pure_error_exact.mp failed)

theorem readArray_decodes (decodes : Decodes item Item) :
    Decodes (readArray item) (IsArray Item) where
  exact c name value items := by
    unfold readArray
    rw [expectKind_bind, readItems_exact decodes]
    constructor
    · rintro ⟨kind, lists⟩
      cases value with
      | array d => exact ⟨d, rfl, lists⟩
      | _ => cases kind
    · rintro ⟨d, rfl, lists⟩
      exact ⟨rfl, lists⟩
  located c name value e failed :=
    expectKind_bind_located (fun failed => readItems_located decodes failed) failed

end

namespace FieldReader

variable {σ α : Type} {decode : Context → String → Value → Except Fault α}
  {Denotes : Value → α → Prop} {name : String} {set : α → σ → σ} {start : σ}

theorem Fits.of {absence : Absence σ} {Member : Type} {make : Option α → Option Member}
    {get : σ → Member} (decodes : Decodes decode Denotes)
    (sets : ∀ a record, make (some a) = some (get (set a record)))
    (refused : absence = .refused → make none = none)
    (accepted : absence = .accepted → make none = some (get start))
    (filled : ∀ fill, absence = .filled fill → ∀ record, make none = some (get (fill record))) :
    (FieldReader.of name decode set absence).Fits start
      { name, Decoded := α, Member, Denotes, make, get } where
  name := rfl
  even := of_even
  located c value _ _ failed := decodes.located c name value _ (map_error_exact.mp failed)
  reads c value before after read := by
    obtain ⟨a, decoded, rfl⟩ := map_ok_exact.mp read
    exact ⟨a, (decodes.exact c name value a).mp decoded, sets a before⟩
  denotes c value a denotes before :=
    ⟨_, of_read ((decodes.exact c name value a).mpr denotes) before⟩
  functional value a b one other := by
    have first := (decodes.exact (.root "") "" value a).mpr one
    have second := (decodes.exact (.root "") "" value b).mpr other
    exact Except.ok.inj (first.symm.trans second)
  refused := refused
  accepted := accepted
  filled := filled

theorem Fits.required {get : σ → Slot α} (decodes : Decodes decode Denotes)
    (sets : ∀ a record, get (set a record) = .of a) :
    (FieldReader.of name decode set .refused).Fits start (.required name get Denotes) :=
  .of decodes (fun a record => congrArg some (sets a record).symm) (fun _ => rfl)
    (fun absence => nomatch absence) (fun _ absence => nomatch absence)

theorem Fits.optional {get : σ → Option α} (decodes : Decodes decode Denotes)
    (sets : ∀ a record, get (set a record) = some a) (initial : get start = none) :
    (FieldReader.of name decode set .accepted).Fits start (.optional name get Denotes) :=
  .of decodes (fun a record => congrArg some (sets a record).symm)
    (fun absence => nomatch absence) (fun _ => congrArg some initial.symm)
    (fun _ absence => nomatch absence)

theorem Fits.defaulted {get : σ → α} {default : α} {fill : σ → σ} (decodes : Decodes decode Denotes)
    (sets : ∀ a record, get (set a record) = a) (fills : ∀ record, get (fill record) = default) :
    (FieldReader.of name decode set (.filled fill)).Fits start
      (.defaulted name get default Denotes) :=
  .of decodes (fun a record => congrArg some (sets a record).symm)
    (fun absence => nomatch absence) (fun absence => nomatch absence) (by
      rintro _ ⟨⟩ record
      exact congrArg some (fills record).symm)

@[simp]
theorem of_name {absence : Absence σ} : (FieldReader.of name decode set absence).name = name := rfl

theorem of_keeps {absence : Absence σ} {μ : Type} {get : σ → μ}
    (sets : ∀ a record, get (set a record) = get record)
    (fills : ∀ fill, absence = .filled fill → ∀ record, get (fill record) = get record) :
    (FieldReader.of name decode set absence).Keeps get where
  reads c value before after read := by
    obtain ⟨a, -, rfl⟩ := map_ok_exact.mp read
    exact sets a before
  fills := fills

end FieldReader

structure FieldReader.Matches {σ : Type} (f : FieldReader σ) (column : Column σ) : Prop where
  name : f.name = column.name
  refuses : ∀ c value, (∃ e, ∀ record, f.read c value record = .error e) ↔
    ∀ a, ¬ column.Denotes value a
  required : f.absence = .refused ↔ column.make none = none

theorem FieldReader.Fits.matches {σ : Type} {f : FieldReader σ} {start : σ} {column : Column σ}
    (fits : f.Fits start column) : f.Matches column where
  name := fits.name
  refuses c value := by
    constructor
    · rintro ⟨e, fails⟩ a denotes
      obtain ⟨after, reads⟩ := fits.denotes c value a denotes start
      cases reads.symm.trans (fails start)
    · intro meaningless
      cases read : f.read c value start with
      | error e => exact ⟨e, fun record => fits.even c value start record e read⟩
      | ok after =>
        obtain ⟨a, denotes, -⟩ := fits.reads c value start after read
        exact absurd denotes (meaningless a)
  required := by
    refine ⟨fits.refused, fun none => ?_⟩
    cases absence : f.absence with
    | refused => rfl
    | accepted => cases none.symm.trans (fits.accepted absence)
    | filled fill => cases none.symm.trans (fits.filled fill absence start)

-- A record that accepts what its columns describe, in any order and at any place, and otherwise
-- names the first fault, with the fields in the order of the columns.
structure Strict {σ : Type} (form : Form σ) (read : Context → Document → Except Fault σ)
    (columns : List (Column σ)) : Prop where
  declared : List.Forall₂ FieldReader.Matches form.fields columns
  accepted : ∀ c d record, read c d = .ok record ↔ Describes columns d record
  reordered : ∀ c c' d d' record, d.Perm d' → read c d = .ok record → read c' d' = .ok record
  refused : ∀ c d e, read c d = .error e ↔ form.FirstFault c d e
  located : ∀ c d e, read c d = .error e → e.Under c

namespace Form

variable {σ : Type} {form : Form σ} {start : σ} {columns : List (Column σ)}

theorem Realises.reads (realises : form.Realises start columns) :
    Reads (fun c d => form.read c start d) columns where
  exact _ _ _ := realises.read_ok_exact
  located c d e failed := by
    refine realises.sound.read_located ?_ failed
    intro f field value record e failed
    obtain ⟨column, -, fits⟩ := forall₂_left realises.fits field
    exact fits.located c value record e failed

theorem Realises.isStrict (realises : form.Realises start columns) :
    Strict form (fun c d => form.read c start d) columns where
  declared := realises.fits.imp fun _ _ fits => fits.matches
  accepted := realises.reads.exact
  reordered _ _ _ _ _ order read :=
    realises.read_ok_exact.mpr ((realises.read_ok_exact.mp read).perm order)
  refused _ _ _ := realises.sound.read_error_exact
  located := realises.reads.located

end Form

end WireSchema.Record
