import Mathlib.Data.List.Induction
import WireSchema.Proofs.Record.Reading

namespace WireSchema.Record

open Bson (Document Value)

-- Only if no element is refused are the fields looked for that are missing, in the order of their
-- declaration.

def Fault.Under (e : Fault) (c : Context) : Prop :=
  ∃ rest, e.field? = some (c.path ++ "." ++ rest)

theorem Context.path_child (c : Context) (name : String) :
    (c.child name).path = c.path ++ "." ++ name := by
  have names : ((c.child name).name :: (c.child name).outer).reverse =
      (c.name :: c.outer).reverse ++ [name] := by
    simp [child]
  unfold path
  rw [names, String.intercalate_append_of_ne_nil (by simp) (by simp)]
  rfl

theorem Fault.Under.outer {e : Fault} {c : Context} {name : String}
    (under : e.Under (c.child name)) : e.Under c := by
  obtain ⟨rest, path⟩ := under
  refine ⟨name ++ "." ++ rest, ?_⟩
  rw [path, c.path_child]
  simp only [String.append_assoc]

def FieldReader.Even {σ : Type} (f : FieldReader σ) : Prop :=
  ∀ c value one other e, f.read c value one = .error e → f.read c value other = .error e

theorem FieldReader.of_even {σ α : Type} {name : String}
    {decode : Context → String → Value → Except Fault α} {set : α → σ → σ} {absence : Absence σ} :
    (FieldReader.of name decode set absence).Even :=
  fun _ _ _ _ _ failed => map_error_exact.mpr (map_error_exact.mp failed)

namespace Form

variable {σ : Type} {form : Form σ} {c : Context} {d : Document} {start : σ} {e : Fault}

inductive Refuses (form : Form σ) (c : Context) (met : List String) :
    String × Value → Fault → Prop where
  | unknown {name : String} {value : Value} (undeclared : form.field? name = none)
      (stranger : form.lets name = false) : Refuses form c met (name, value) (c.unknownField name)
  | repeated {name : String} {value : Value} {f : FieldReader σ}
      (declared : form.field? name = some f) (again : name ∈ met) :
      Refuses form c met (name, value) (c.duplicateField name)
  | undecodable {name : String} {value : Value} {f : FieldReader σ} {e : Fault}
      (declared : form.field? name = some f) (fresh : name ∉ met)
      (fails : ∀ record, f.read c value record = .error e) : Refuses form c met (name, value) e

def Clear (form : Form σ) (c : Context) (d : Document) : Prop :=
  ∀ before element after, d = before ++ element :: after →
    ∀ e, ¬ form.Refuses c (Document.names before) element e

def FirstRefused (form : Form σ) (c : Context) (d : Document) (e : Fault) : Prop :=
  ∃ before element after, d = before ++ element :: after ∧ form.Clear c before ∧
    form.Refuses c (Document.names before) element e

def FirstMissing (form : Form σ) (c : Context) (d : Document) (e : Fault) : Prop :=
  ∃ before f after, form.fields = before ++ f :: after ∧
    (∀ g ∈ before, g.absence = .refused → g.name ∈ Document.names d) ∧
    f.absence = .refused ∧ f.name ∉ Document.names d ∧ e = c.missingField f.name

def FirstFault (form : Form σ) (c : Context) (d : Document) (e : Fault) : Prop :=
  form.FirstRefused c d e ∨ form.Clear c d ∧ form.FirstMissing c d e

-- Names tell the fields apart, and no field depends on what was read before it.
structure Sound (form : Form σ) : Prop where
  strict : form.strict = true
  distinct : (form.fields.map (·.name)).Nodup
  even : ∀ f ∈ form.fields, f.Even

theorem field?_parts {name : String} {f : FieldReader σ} (found : form.field? name = some f) :
    f ∈ form.fields ∧ f.name = name :=
  ⟨List.mem_of_find?_eq_some found, by simpa using List.find?_some found⟩

theorem field?_none {name : String} :
    form.field? name = none ↔ ∀ f ∈ form.fields, f.name ≠ name := by
  simp [field?]

theorem field?_some {name : String} (declared : name ∈ form.fields.map (·.name)) :
    ∃ f, form.field? name = some f := by
  obtain ⟨f, field, rfl⟩ := List.mem_map.mp declared
  exact Option.ne_none_iff_exists'.mp fun undeclared => field?_none.mp undeclared f field rfl

theorem Clear.part {before after : Document} (clear : form.Clear c (before ++ after)) :
    form.Clear c before := by
  intro first element rest parts e
  exact clear first element (rest ++ after) (by simp [parts]) e

theorem Clear.lets (clear : form.Clear c d) {name : String} (member : name ∈ Document.names d)
    (undeclared : form.field? name = none) : form.lets name = true := by
  obtain ⟨⟨_, value⟩, here, rfl⟩ := List.mem_map.mp member
  obtain ⟨before, after, parts⟩ := List.append_of_mem here
  apply Bool.of_not_eq_false
  intro stranger
  exact clear before _ after parts _ (.unknown undeclared stranger)

theorem Clear.once (clear : form.Clear c d) {name : String} {f : FieldReader σ}
    (declared : form.field? name = some f) : (Document.names d).count name ≤ 1 := by
  induction d using List.reverseRecOn with
  | nil => exact Nat.zero_le 1
  | append_singleton d element ih =>
    have names : Document.names (d ++ [element]) = Document.names d ++ [element.1] := by
      simp [Document.names]
    rw [names, List.count_append]
    by_cases own : element.1 = name
    · subst own
      have fresh : element.1 ∉ Document.names d :=
        fun again => clear d element [] rfl _ (.repeated declared again)
      simp [List.count_eq_zero_of_not_mem fresh]
    · simpa [own] using ih clear.part

section

variable {p next : Progress σ} {name : String} {value : Value} {element : String × Value}

inductive Step (form : Form σ) (c : Context) (p : Progress σ) :
    String × Value → Except Fault (Progress σ) → Prop where
  | refused {element : String × Value} {e : Fault} (refused : form.Refuses c p.met element e) :
      Step form c p element (.error e)
  | passed {name : String} {value : Value} (undeclared : form.field? name = none)
      (lets : form.lets name = true) : Step form c p (name, value) (.ok p)
  | taken {name : String} {value : Value} {f : FieldReader σ} {record : σ}
      (declared : form.field? name = some f) (fresh : name ∉ p.met)
      (reads : f.read c value p.record = .ok record) :
      Step form c p (name, value) (.ok { record, met := name :: p.met })

theorem Sound.take_undeclared (sound : form.Sound) (undeclared : form.field? name = none) :
    form.take c p (name, value) =
      if form.lets name then .ok p else .error (c.unknownField name) := by
  unfold take
  simp only [sound.strict, undeclared]

theorem Sound.take_declared (sound : form.Sound) {f : FieldReader σ}
    (declared : form.field? name = some f) :
    form.take c p (name, value) = if p.met.contains name then .error (c.duplicateField name)
      else (f.read c value p.record).map fun record => { record, met := name :: p.met } := by
  unfold take
  simp only [sound.strict, declared]

theorem Sound.take_step (sound : form.Sound) (c : Context) (p : Progress σ)
    (element : String × Value) : form.Step c p element (form.take c p element) := by
  obtain ⟨name, value⟩ := element
  cases declared : form.field? name with
  | none =>
    rw [sound.take_undeclared declared]
    cases lets : form.lets name with
    | true => exact .passed declared lets
    | false => exact .refused (.unknown declared lets)
  | some f =>
    rw [sound.take_declared declared]
    by_cases again : name ∈ p.met
    · rw [if_pos (by simpa using again)]
      exact .refused (.repeated declared again)
    · rw [if_neg (by simpa using again)]
      cases reads : f.read c value p.record with
      | ok record => exact .taken declared again reads
      | error e =>
        refine .refused (.undecodable declared again ?_)
        intro record
        exact sound.even f (field?_parts declared).1 c value p.record record e reads

-- Which of the names that were met are not fields makes no difference.
theorem Refuses.congr {met other : List String}
    (same : ∀ f ∈ form.fields, f.name ∈ met ↔ f.name ∈ other)
    (refused : form.Refuses c met element e) : form.Refuses c other element e := by
  cases refused with
  | unknown undeclared stranger => exact .unknown undeclared stranger
  | repeated declared again =>
    obtain ⟨member, rfl⟩ := field?_parts declared
    exact .repeated declared ((same _ member).mp again)
  | undecodable declared fresh fails =>
    obtain ⟨member, rfl⟩ := field?_parts declared
    exact .undecodable declared (mt (same _ member).mpr fresh) fails

theorem Sound.take_error (sound : form.Sound) :
    form.take c p element = .error e ↔ form.Refuses c p.met element e := by
  constructor
  · intro failed
    have step := sound.take_step c p element
    rw [failed] at step
    cases step with
    | refused refused => exact refused
  · intro refused
    cases refused with
    | unknown undeclared stranger =>
      rw [sound.take_undeclared undeclared, stranger]
      rfl
    | repeated declared again => rw [sound.take_declared declared, if_pos (by simpa using again)]
    | undecodable declared fresh fails =>
      rw [sound.take_declared declared, if_neg (by simpa using fresh), fails]
      rfl

theorem Sound.take_met (sound : form.Sound) (taken : form.take c p element = .ok next)
    {f : FieldReader σ} (member : f ∈ form.fields) :
    f.name ∈ next.met ↔ f.name = element.1 ∨ f.name ∈ p.met := by
  have step := sound.take_step c p element
  rw [taken] at step
  cases step with
  | passed undeclared =>
    have differs := field?_none.mp undeclared f member
    simp [differs]
  | taken => simp

theorem Sound.scan_met (sound : form.Sound) (scanned : form.scan c start d = .ok p)
    {f : FieldReader σ} (member : f ∈ form.fields) :
    f.name ∈ p.met ↔ f.name ∈ Document.names d := by
  have general (d : Document) (q : Progress σ) (ran : d.foldlM (form.take c) q = .ok p) :
      f.name ∈ p.met ↔ f.name ∈ Document.names d ∨ f.name ∈ q.met := by
    induction d generalizing q with
    | nil =>
      cases ran
      simp [Document.names]
    | cons element rest ih =>
      rw [List.foldlM_cons] at ran
      obtain ⟨next, taken, ran⟩ := bind_ok_exact.mp ran
      rw [ih next ran, sound.take_met taken member]
      simp only [Document.names, List.map_cons, List.mem_cons]
      tauto
  simpa using general d _ scanned

end

section

variable {p : Progress σ}

theorem Sound.scan_refuses (sound : form.Sound) {element : String × Value}
    (scanned : form.scan c start d = .ok p) :
    form.take c p element = .error e ↔ form.Refuses c (Document.names d) element e := by
  have same : ∀ f ∈ form.fields, f.name ∈ p.met ↔ f.name ∈ Document.names d :=
    fun f member => sound.scan_met scanned member
  rw [sound.take_error]
  exact ⟨.congr same, .congr fun f member => (same f member).symm⟩

theorem Sound.scan_ok_exact (sound : form.Sound) :
    (∃ p, form.scan c start d = .ok p) ↔ form.Clear c d := by
  constructor
  · rintro ⟨p, scanned⟩ before element after rfl e refused
    obtain ⟨middle, next, ran, taken, -⟩ := foldlM_ok_parts scanned
    cases taken.symm.trans ((sound.scan_refuses ran).mpr refused)
  · intro clear
    cases scanned : form.scan c start d with
    | ok p => exact ⟨p, rfl⟩
    | error e =>
      obtain ⟨before, element, after, middle, parts, ran, failed⟩ := foldlM_error_exact.mp scanned
      exact absurd ((sound.scan_refuses ran).mp failed) (clear before element after parts e)

theorem Sound.scan_error_exact (sound : form.Sound) :
    form.scan c start d = .error e ↔ form.FirstRefused c d e := by
  constructor
  · intro failed
    obtain ⟨before, element, after, middle, parts, ran, failed⟩ := foldlM_error_exact.mp failed
    exact ⟨before, element, after, parts, sound.scan_ok_exact.mp ⟨middle, ran⟩,
      (sound.scan_refuses ran).mp failed⟩
  · rintro ⟨before, element, after, parts, clear, refused⟩
    obtain ⟨middle, ran⟩ : ∃ p, form.scan c start before = .ok p := sound.scan_ok_exact.mpr clear
    exact foldlM_error_exact.mpr
      ⟨before, element, after, middle, parts, ran, (sound.scan_refuses ran).mpr refused⟩

end

def account (c : Context) (met : List String) (record : σ) (f : FieldReader σ) : Except Fault σ :=
  if met.contains f.name then .ok record
  else
    match f.absence with
    | .refused => .error (c.missingField f.name)
    | .accepted => .ok record
    | .filled fill => .ok (fill record)

section

variable {met : List String} {record after : σ} {f : FieldReader σ} {p : Progress σ}

theorem finish_account (form : Form σ) (c : Context) (p : Progress σ) :
    form.finish c p = form.fields.foldlM (account c p.met) p.record := rfl

theorem account_met (present : f.name ∈ met) : account c met record f = .ok record := by
  rw [account, if_pos (by simpa using present)]

theorem account_error_exact : account c met record f = .error e ↔
    f.absence = .refused ∧ f.name ∉ met ∧ e = c.missingField f.name := by
  by_cases present : f.name ∈ met
  · simp [account_met present, present]
  · rw [account, if_neg (by simpa using present)]
    cases absence : f.absence with
    | refused => simp [present, eq_comm]
    | accepted => simp
    | filled fill => simp

theorem accounts_ok_exact {fields : List (FieldReader σ)} :
    (∃ after, fields.foldlM (account c met) record = .ok after) ↔
      ∀ f ∈ fields, f.absence = .refused → f.name ∈ met := by
  constructor
  · rintro ⟨after, ran⟩ f member refused
    obtain ⟨before, rest, rfl⟩ := List.append_of_mem member
    obtain ⟨middle, next, -, here, -⟩ := foldlM_ok_parts ran
    by_contra missing
    cases here.symm.trans (account_error_exact.mpr ⟨refused, missing, rfl⟩)
  · intro present
    cases ran : fields.foldlM (account c met) record with
    | ok after => exact ⟨after, rfl⟩
    | error e =>
      obtain ⟨before, f, rest, middle, rfl, -, failed⟩ := foldlM_error_exact.mp ran
      obtain ⟨refused, missing, -⟩ := account_error_exact.mp failed
      exact absurd (present f (by simp) refused) missing

theorem finish_error_exact : form.finish c p = .error e ↔
    ∃ before f after, form.fields = before ++ f :: after ∧
      (∀ g ∈ before, g.absence = .refused → g.name ∈ p.met) ∧
      f.absence = .refused ∧ f.name ∉ p.met ∧ e = c.missingField f.name := by
  rw [finish_account, foldlM_error_exact]
  constructor
  · rintro ⟨before, f, after, middle, parts, ran, failed⟩
    exact ⟨before, f, after, parts, accounts_ok_exact.mp ⟨middle, ran⟩,
      account_error_exact.mp failed⟩
  · rintro ⟨before, f, after, parts, present, failed⟩
    obtain ⟨middle, ran⟩ : ∃ after, before.foldlM (account c p.met) p.record = .ok after :=
      accounts_ok_exact.mpr present
    exact ⟨before, f, after, middle, parts, ran, account_error_exact.mpr failed⟩

end

theorem Sound.finish_missing (sound : form.Sound) {p : Progress σ}
    (scanned : form.scan c start d = .ok p) :
    form.finish c p = .error e ↔ form.FirstMissing c d e := by
  have same {f : FieldReader σ} (member : f ∈ form.fields) :
      f.name ∈ p.met ↔ f.name ∈ Document.names d := sound.scan_met scanned member
  rw [finish_error_exact]
  constructor
  · rintro ⟨before, f, after, parts, present, refused, missing, rfl⟩
    have member : f ∈ form.fields := by simp [parts]
    refine ⟨before, f, after, parts, ?_, refused, mt (same member).mpr missing, rfl⟩
    intro g earlier needed
    exact (same (by simp [parts, earlier])).mp (present g earlier needed)
  · rintro ⟨before, f, after, parts, present, refused, missing, rfl⟩
    have member : f ∈ form.fields := by simp [parts]
    refine ⟨before, f, after, parts, ?_, refused, mt (same member).mp missing, rfl⟩
    intro g earlier needed
    exact (same (by simp [parts, earlier])).mpr (present g earlier needed)

theorem Sound.read_error_exact (sound : form.Sound) :
    form.read c start d = .error e ↔ form.FirstFault c d e := by
  unfold read
  rw [bind_error_exact, sound.scan_error_exact]
  refine or_congr_right ?_
  constructor
  · rintro ⟨p, scanned, failed⟩
    exact ⟨sound.scan_ok_exact.mp ⟨p, scanned⟩, (sound.finish_missing scanned).mp failed⟩
  · rintro ⟨clear, missing⟩
    obtain ⟨p, scanned⟩ : ∃ p, form.scan c start d = .ok p := sound.scan_ok_exact.mpr clear
    exact ⟨p, scanned, (sound.finish_missing scanned).mpr missing⟩

theorem Sound.read_located (sound : form.Sound)
    (located : ∀ f ∈ form.fields, ∀ value record e, f.read c value record = .error e → e.Under c)
    (failed : form.read c start d = .error e) : e.Under c := by
  rcases sound.read_error_exact.mp failed with refused | ⟨-, missing⟩
  · obtain ⟨_, _, _, -, -, refused⟩ := refused
    cases refused with
    | @unknown name => exact ⟨name, rfl⟩
    | @repeated name => exact ⟨name, rfl⟩
    | undecodable declared _ fails =>
      exact located _ (field?_parts declared).1 _ start e (fails start)
  · obtain ⟨_, f, _, -, -, -, -, rfl⟩ := missing
    exact ⟨f.name, rfl⟩

end Form

end WireSchema.Record
