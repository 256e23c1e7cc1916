import WireSchema.Proofs.Bson.RoundTrip
import WireSchema.Proofs.Outcome
import WireSchema.Record.Reader
import WireSchema.Record.Slot

namespace WireSchema.Record

open Bson (Document Value keyedFrom ElementsFaithful nesting maxNesting)

theorem Context.expectKinds_exact {c : Context} {field : String} {value : Value}
    {expected : List Bson.Kind} :
    c.expectKinds field value expected = .ok () ↔ value.kind ∈ expected := by
  unfold expectKinds
  split <;> simp_all

theorem natural?_toString (n : Nat) : Integer.natural? (toString n).toList = some n := by
  have digits : (toString n).toList = Nat.toDigits 10 n := by
    rw [Nat.toString_eq_repr, Nat.repr, String.toList_ofList]
  have plain : (Nat.toDigits 10 n).all (·.isDigit) = true := by
    rw [List.all_eq_true]
    intro c member
    exact Nat.isDigit_of_mem_toDigits (by decide) (by decide) member
  have some : (Nat.toDigits 10 n).isEmpty = false := by
    rw [List.isEmpty_eq_false_iff]
    exact Nat.toDigits_ne_nil
  have value : (Nat.toDigits 10 n).foldl (fun m c => 10 * m + (c.toNat - 48)) 0 = n :=
    Nat.ofDigitChars_ten_toDigits
  unfold Integer.natural?
  rw [digits, plain, some, value]
  rfl

theorem arrayPosition?_toString {n : Nat} (small : n < 2 ^ 32) :
    arrayPosition? (toString n) = some n := by
  unfold arrayPosition?
  rw [natural?_toString]
  simpa using small

section

variable {α : Type} {c : Context} {item : Context → String → Value → Except Fault α}
  {position : Nat} {element : String × Value} {rest : Document}

def readItem {α : Type} (item : Context → String → Value → Except Fault α) (c : Context)
    (position : Nat) (element : String × Value) : Except Fault α :=
  match arrayPosition? element.1 with
  | none => .error (c.arrayKey element.1)
  | some actual =>
    if actual = position then item c element.1 element.2 else .error (c.arrayOrder actual position)

theorem readItems_cons : readItems c item position (element :: rest) =
    readItem item c position element >>= fun first =>
      readItems c item (position + 1) rest >>= fun others => pure (first :: others) := by
  unfold readItem
  rw [readItems]
  cases arrayPosition? element.1 with
  | none => rfl
  | some actual =>
    dsimp only
    split <;> rfl

theorem readItem_ok_exact {a : α} : readItem item c position element = .ok a ↔
    arrayPosition? element.1 = some position ∧ item c element.1 element.2 = .ok a := by
  unfold readItem
  constructor
  · intro read
    split at read
    · cases read
    · rename_i actual counts
      split at read
      · rename_i same
        exact ⟨same ▸ counts, read⟩
      · cases read
  · rintro ⟨counts, decoded⟩
    simp only [counts, if_true, decoded]

end

theorem readItems_keyedFrom {α : Type} {c : Context} {item : Context → String → Value → Except Fault α}
    {write : α → Value} {items : List α} (start : Nat)
    (reads : ∀ a ∈ items, ∀ key, item c key (write a) = .ok a)
    (small : start + items.length ≤ 2 ^ 32) :
    readItems c item start (keyedFrom start (items.map write)) = .ok items := by
  induction items generalizing start with
  | nil => rfl
  | cons a items ih =>
    rw [List.length_cons] at small
    have first := reads a List.mem_cons_self (toString start)
    have others := ih (start + 1)
      (fun b member => reads b (List.mem_cons_of_mem a member)) (by omega)
    have here : readItem item c start (toString start, write a) = .ok a :=
      readItem_ok_exact.mpr ⟨arrayPosition?_toString (by omega), first⟩
    rw [List.map_cons, keyedFrom, readItems_cons]
    exact bind_ok_exact.mpr ⟨a, here, bind_ok_exact.mpr ⟨items, others, rfl⟩⟩

theorem readArray_ofItems {α : Type} {c : Context} {item : Context → String → Value → Except Fault α}
    {write : α → Value} {items : List α} (name : String)
    (reads : ∀ a ∈ items, ∀ key, item (c.child name) key (write a) = .ok a)
    (small : items.length < 2 ^ 32) :
    readArray item c name (.ofItems (items.map write)) = .ok items :=
  readItems_keyedFrom 0 reads (by omega)

theorem readInt32_int32 (c : Context) (name : String) (n : Int32) :
    readInt32 c name (.int32 n) = .ok n := rfl

theorem FieldReader.of_read {σ α : Type} {name : String}
    {decode : Context → String → Value → Except Fault α} {set : α → σ → σ} {absence : Absence σ}
    {c : Context} {value : Value} {a : α} (decoded : decode c name value = .ok a) (record : σ) :
    (FieldReader.of name decode set absence).read c value record = .ok (set a record) := by
  unfold FieldReader.of
  dsimp only
  rw [decoded]
  rfl

namespace Form

variable {σ : Type} {form : Form σ} {c : Context}

inductive Fills (form : Form σ) (c : Context) : σ → Document → σ → Prop where
  | nil {record : σ} : Fills form c record [] record
  | field {name : String} {f : FieldReader σ} {value : Value} {d : Document} {before middle after : σ}
      (known : form.field? name = some f) (reads : f.read c value before = .ok middle)
      (rest : Fills form c middle d after) : Fills form c before ((name, value) :: d) after

theorem take_field {p : Progress σ} {name : String} {f : FieldReader σ} {value : Value} {record : σ}
    (known : form.field? name = some f) (fresh : name ∉ p.met)
    (reads : f.read c value p.record = .ok record) :
    form.take c p (name, value) = .ok { record, met := name :: p.met } := by
  have unmet : p.met.contains name = false := by simpa using fresh
  unfold take
  dsimp only
  rw [known]
  cases form.strict <;> simp only [unmet, reads] <;> rfl

theorem scan_fills {d : Document} {before after : σ} (met : List String)
    (fills : Fills form c before d after) (distinct : d.names.Nodup)
    (fresh : ∀ name ∈ d.names, name ∉ met) :
    d.foldlM (form.take c) ⟨before, met⟩ = .ok ⟨after, d.names.reverse ++ met⟩ := by
  induction fills generalizing met with
  | nil => rfl
  | @field name f value d before middle after known reads rest ih =>
    have names : Document.names ((name, value) :: d) = name :: Document.names d := rfl
    rw [names] at distinct fresh ⊢
    obtain ⟨apart, distinct⟩ := List.nodup_cons.mp distinct
    have taken := take_field (p := ⟨before, met⟩) known (fresh name List.mem_cons_self) reads
    have remaining : ∀ other ∈ Document.names d, other ∉ name :: met := by
      intro other member
      rw [List.mem_cons, not_or]
      refine ⟨?_, fresh other (List.mem_cons_of_mem name member)⟩
      intro equal
      cases equal
      exact apart member
    rw [List.foldlM_cons, taken]
    refine (ih (name :: met) distinct remaining).trans ?_
    simp

-- A strict record passes over the names that it lets stand, repeated or not.
theorem scan_lets {d : Document} (strict : form.strict = true)
    (passed : ∀ name ∈ d.names, form.field? name = none ∧ form.lets name = true)
    (p : Progress σ) : d.foldlM (form.take c) p = .ok p := by
  induction d with
  | nil => rfl
  | cons element rest ih =>
    obtain ⟨name, value⟩ := element
    obtain ⟨⟨unknown, lets⟩, others⟩ := List.forall_mem_cons.mp passed
    have taken : form.take c p (name, value) = .ok p := by
      unfold take
      simp only [strict, unknown, lets, if_true]
    rw [List.foldlM_cons, taken]
    exact ih others

theorem scan_keeps {P : σ → Prop} {d : Document} {start : σ} {p : Progress σ}
    (each : ∀ f ∈ form.fields, ∀ value before after, f.read c value before = .ok after →
      P before → P after)
    (scanned : form.scan c start d = .ok p) (initial : P start) : P p.record := by
  have step {q next : Progress σ} {element : String × Value}
      (taken : form.take c q element = .ok next) (holds : P q.record) : P next.record := by
    have known {f : FieldReader σ} (found : form.field? element.1 = some f)
        (reads : ((f.read c element.2 q.record).map fun record =>
          ({ record, met := element.1 :: q.met } : Progress σ)) = .ok next) : P next.record := by
      obtain ⟨record, read, rfl⟩ := map_ok_exact.mp reads
      exact each f (List.mem_of_find?_eq_some found) _ _ _ read holds
    unfold take at taken
    grind
  have run (d : Document) (q : Progress σ) (ran : d.foldlM (form.take c) q = .ok p)
      (holds : P q.record) : P p.record := by
    induction d generalizing q with
    | nil =>
      cases ran
      exact holds
    | cons element rest ih =>
      rw [List.foldlM_cons] at ran
      obtain ⟨next, taken, ran⟩ := bind_ok_exact.mp ran
      exact ih next ran (step taken holds)
  exact run d _ scanned initial

theorem finish_keeps {P : σ → Prop} {p : Progress σ} {record : σ}
    (fills : ∀ f ∈ form.fields, ∀ fill, f.absence = .filled fill → ∀ r, P r → P (fill r))
    (finished : form.finish c p = .ok record) (holds : P p.record) : P record := by
  unfold finish at finished
  generalize form.fields = fields at fills finished
  generalize p.record = start at finished holds
  induction fields generalizing start with
  | nil =>
    cases finished
    exact holds
  | cons f rest ih =>
    rw [List.foldlM_cons] at finished
    obtain ⟨next, first, finished⟩ := bind_ok_exact.mp finished
    refine ih (fun g member => fills g (List.mem_cons_of_mem f member)) next finished ?_
    split at first
    · cases first
      exact holds
    · split at first
      · cases first
      · cases first
        exact holds
      · rename_i fill filled
        cases first
        exact fills f List.mem_cons_self fill filled start holds

theorem finish_accepted {p : Progress σ}
    (present : ∀ f ∈ form.fields, f.name ∈ p.met ∨ f.absence = .accepted) :
    form.finish c p = .ok p.record := by
  unfold finish
  generalize form.fields = fields at present
  induction fields with
  | nil => rfl
  | cons f fields ih =>
    have others := ih (fun g member => present g (List.mem_cons_of_mem f member))
    rw [List.foldlM_cons]
    rcases present f List.mem_cons_self with met | accepted
    · rw [if_pos (by simpa using met)]
      exact others
    · rw [accepted]
      split <;> exact others

theorem read_fills {d : Document} {start after : σ} (fills : Fills form c start d after)
    (distinct : d.names.Nodup)
    (present : ∀ f ∈ form.fields, f.name ∈ d.names ∨ f.absence = .accepted) :
    form.read c start d = .ok after := by
  have scanned := scan_fills [] fills distinct (by simp)
  unfold read scan
  rw [scanned]
  refine finish_accepted ?_
  intro f member
  simpa using present f member

end Form

-- A record of any type comes back from its document, and from the bytes of it if they are not too
-- many to count.
def RoundTrips {α : Type} (read : Context → Document → Except Fault α)
    (write : α → Except Incomplete Document) (a : α) : Prop :=
  ∃ d : Document, write a = .ok d ∧ (∀ c, read c d = .ok a) ∧
    (d.encode.length < 2 ^ 31 → ∀ name, ofBytes read name d.encode = .ok a)

theorem roundTrips_of_read {α : Type} {read : Context → Document → Except Fault α}
    {write : α → Except Incomplete Document} {a : α} {d : Document} (written : write a = .ok d)
    (faithful : ElementsFaithful d) (shallow : nesting d ≤ maxNesting)
    (reads : ∀ c, read c d = .ok a) : RoundTrips read write a := by
  refine ⟨d, written, reads, ?_⟩
  intro fits name
  have decoded : Document.decode d.encode = .ok d :=
    Document.decode_exact.mpr ⟨⟨faithful, shallow, fits⟩, rfl⟩
  unfold ofBytes
  rw [decoded]
  exact reads (.root name)

end WireSchema.Record
