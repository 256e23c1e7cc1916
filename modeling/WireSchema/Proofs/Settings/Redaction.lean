import WireSchema.Proofs.Settings.Registry

namespace WireSchema.Settings

open Bson (Document)
open Registry (Call)

-- Two runs of calls are compared that differ in the texts set for redacted parameters, and in all
-- that such parameters are made of behind their headers.

def Parameter.Alike (p q : Parameter) : Prop :=
  p = q ∨ p.header = q.header ∧ p.header.redacted = true

namespace Parameter

variable {p q : Parameter}

theorem Alike.header (alike : p.Alike q) : p.header = q.header := by
  rcases alike with rfl | ⟨same, -⟩
  · rfl
  · exact same

theorem shownAs_redacted (redacted : p.header.redacted = true) (name : String) :
    p.shownAs name = [(name, redaction)] := by
  cases p with
  | stored type p =>
    have hidden : p.header.redacted = true := redacted
    simp [shownAs, hidden]
  | hooked p =>
    have hidden : p.header.redacted = true := redacted
    simp [shownAs, hidden]

theorem Alike.elements (alike : p.Alike q) : p.elements = q.elements := by
  rcases alike with rfl | ⟨same, redacted⟩
  · rfl
  · have hidden : q.header.redacted = true := by rwa [← same]
    rw [elements_shownAs, elements_shownAs, shownAs_redacted redacted, shownAs_redacted hidden]
    exact congrArg (fun h : Header => [(h.name, redaction)]) same

end Parameter

-- What hooks make of their own parameter when a text was handed to it. They may change its value,
-- and what its append hook will show, but not its header; and they have nothing else to change.
structure Hooks where
  touch : String → Parameter → Parameter
  header : ∀ text p, (touch text p).header = p.header

namespace Hooks

def quiet : Hooks :=
  ⟨fun _ p => p, fun _ _ => rfl⟩

def set (hooks : Hooks) (r : Registry) (name text : String) : Registry :=
  match r.get? name with
  | none => r
  | some p =>
    { r with
      parameters := r.parameters.insert (r.canonical name) (hooks.touch text (p.setText text).2) }

def call (hooks : Hooks) (r : Registry) : Call → Registry
  | .set name text => hooks.set r name text
  | c => (r.call c).2

def run (hooks : Hooks) (r : Registry) (calls : List Call) : Registry :=
  calls.foldl hooks.call r

theorem quiet_call (r : Registry) (c : Call) : quiet.call r c = (r.call c).2 := by
  cases c with
  | set name text =>
    show quiet.set r name text = (r.setText name text).2
    unfold set Registry.setText
    cases r.get? name <;> rfl
  | _ => rfl

theorem quiet_run (r : Registry) (calls : List Call) : quiet.run r calls = r.run calls := by
  rw [run, Registry.run]
  congr 1
  funext r c
  exact quiet_call r c

variable {hooks : Hooks} {r : Registry}

theorem set_header (text : String) (p : Parameter) :
    (hooks.touch text (p.setText text).2).header = p.header :=
  (hooks.header text _).trans (p.setText_header text)

theorem kept_call (kept : r.Kept) (c : Call) : (hooks.call r c).Kept := by
  cases c with
  | set name text =>
    show (hooks.set r name text).Kept
    unfold set
    split
    · exact kept
    · rename_i p found
      exact kept.set found (set_header text p)
  | _ => exact kept.step (r.call_step _)

theorem kept_run (kept : r.Kept) (calls : List Call) : (hooks.run r calls).Kept := by
  induction calls generalizing r with
  | nil => exact kept
  | cons c rest ih => exact ih (kept_call kept c)

end Hooks

theorem Parameter.Alike.set {p q : Parameter} (alike : p.Alike q) (hooks : Hooks)
    {one other : String} (apart : one = other ∨ p.header.redacted = true) :
    (hooks.touch one (p.setText one).2).Alike (hooks.touch other (q.setText other).2) := by
  have headers : (hooks.touch one (p.setText one).2).header =
      (hooks.touch other (q.setText other).2).header := by
    rw [Hooks.set_header, Hooks.set_header, alike.header]
  have hidden (redacted : p.header.redacted = true) :
      (hooks.touch one (p.setText one).2).header.redacted = true := by
    rwa [Hooks.set_header]
  rcases alike with rfl | ⟨-, redacted⟩
  · rcases apart with rfl | redacted
    · exact .inl rfl
    · exact .inr ⟨headers, hidden redacted⟩
  · exact .inr ⟨headers, hidden redacted⟩

def AlikeEntries (e f : String × Parameter) : Prop :=
  e.1 = f.1 ∧ e.2.Alike f.2

namespace AlikeEntries

variable {es fs : List (String × Parameter)} (alike : List.Forall₂ AlikeEntries es fs)

include alike

theorem names : es.map (·.1) = fs.map (·.1) := by
  induction alike with
  | nil => rfl
  | cons first _ ih => rw [List.map_cons, List.map_cons, first.1, ih]

theorem elements : es.flatMap (·.2.elements) = fs.flatMap (·.2.elements) := by
  induction alike with
  | nil => rfl
  | cons first _ ih => rw [List.flatMap_cons, List.flatMap_cons, first.2.elements, ih]

theorem headers : es.map (·.2.header) = fs.map (·.2.header) := by
  induction alike with
  | nil => rfl
  | cons first _ ih => rw [List.map_cons, List.map_cons, first.2.header, ih]

theorem lookup (key : String) : Option.Rel Parameter.Alike (es.lookup key) (fs.lookup key) := by
  induction alike with
  | nil => exact .none
  | @cons e f _ _ first _ ih =>
    obtain ⟨name, p⟩ := e
    obtain ⟨other, q⟩ := f
    obtain ⟨rfl, alike⟩ : name = other ∧ p.Alike q := first
    by_cases here : key = name
    · subst here
      simpa using Option.Rel.some alike
    · simpa [List.lookup_cons, beq_false_of_ne here] using ih

theorem insert {p q : Parameter} (same : p.Alike q) (name : String) :
    List.Forall₂ AlikeEntries (NameMap.insertEntry name p es) (NameMap.insertEntry name q fs) := by
  induction alike with
  | nil => exact .cons ⟨rfl, same⟩ .nil
  | @cons e f _ _ first rest ih =>
    obtain ⟨key, _⟩ := e
    obtain ⟨other, _⟩ := f
    have same := first.1
    dsimp only at same
    subst same
    unfold NameMap.insertEntry
    split
    · exact .cons ⟨rfl, same⟩ rest
    · split
      · exact .cons ⟨rfl, same⟩ (.cons first rest)
      · exact .cons first ih

end AlikeEntries

namespace Registry

structure Alike (r s : Registry) : Prop where
  parameters : List.Forall₂ AlikeEntries r.parameters.entries s.parameters.entries
  aliases : r.aliases = s.aliases

-- Two calls of which the first is made on `r`. For a redacted parameter the texts may differ,
-- through whatever name they are set, and so may what such a parameter is made of when it is added.
inductive Apart (r : Registry) : Call → Call → Prop where
  | same {c : Call} : Apart r c c
  | secret {name one other : String}
      (redacted : ∀ p, r.get? name = some p → p.header.redacted = true) :
      Apart r (.set name one) (.set name other)
  | added {p q : Parameter} (alike : p.Alike q) : Apart r (.add p) (.add q)

inductive RunsApart (hooks : Hooks) : Registry → List Call → List Call → Prop where
  | done {r : Registry} : RunsApart hooks r [] []
  | step {r : Registry} {c d : Call} {calls others : List Call} (apart : r.Apart c d)
      (rest : RunsApart hooks (hooks.call r c) calls others) :
      RunsApart hooks r (c :: calls) (d :: others)

namespace Alike

variable {r s : Registry} (alike : r.Alike s)

include alike

theorem names : r.parameters.names = s.parameters.names :=
  AlikeEntries.names alike.parameters

theorem taken (name : String) : r.Taken name ↔ s.Taken name := by
  rw [Taken, Taken, alike.names, alike.aliases]

theorem canonical (name : String) : r.canonical name = s.canonical name := by
  rw [Registry.canonical, Registry.canonical, alike.aliases]

theorem get? (name : String) : Option.Rel Parameter.Alike (r.get? name) (s.get? name) := by
  rw [Registry.get?, Registry.get?, alike.canonical]
  exact AlikeEntries.lookup alike.parameters _

theorem add {p q : Parameter} (same : p.Alike q) :
    (r.call (.add p)).2.Alike (s.call (.add q)).2 := by
  have name : p.name = q.name := congrArg Header.name same.header
  by_cases taken : r.Taken p.name
  · rw [add_taken taken, add_taken (name ▸ (alike.taken p.name).mp taken)]
    exact alike
  · rw [add_free taken, add_free (name ▸ mt (alike.taken p.name).mpr taken), name]
    exact ⟨AlikeEntries.insert alike.parameters same q.name, alike.aliases⟩

theorem addAlias (given name : String) :
    (r.call (.addAlias given name)).2.Alike (s.call (.addAlias given name)).2 := by
  have names := alike.names
  by_cases known : name ∈ r.parameters.names
  · by_cases taken : r.Taken given
    · rw [addAlias_taken known taken, addAlias_taken (names ▸ known) ((alike.taken given).mp taken)]
      exact alike
    · rw [addAlias_free known taken,
        addAlias_free (names ▸ known) (mt (alike.taken given).mpr taken)]
      exact ⟨alike.parameters, by rw [alike.aliases]⟩
  · rw [addAlias_unknown known, addAlias_unknown (names ▸ known)]
    exact alike

theorem set {hooks : Hooks} {name one other : String}
    (apart : one = other ∨ ∀ p, r.get? name = some p → p.header.redacted = true) :
    (hooks.set r name one).Alike (hooks.set s name other) := by
  have found := alike.get? name
  unfold Hooks.set
  cases left : r.get? name with
  | none =>
    rw [left] at found
    generalize s.get? name = right at found
    cases found
    exact alike
  | some p =>
    rw [left] at found
    generalize s.get? name = right at found
    cases found with
    | some same =>
      have stored := same.set hooks (apart.imp_right (· p left))
      rw [alike.canonical]
      exact ⟨AlikeEntries.insert alike.parameters stored _, alike.aliases⟩

theorem step {hooks : Hooks} {c d : Call} (apart : r.Apart c d) :
    (hooks.call r c).Alike (hooks.call s d) := by
  cases apart with
  | same =>
    cases c with
    | add p => exact alike.add (.inl rfl)
    | addAlias given name => exact alike.addAlias given name
    | set name text => exact alike.set (.inl rfl)
  | secret redacted => exact alike.set (.inr redacted)
  | added same => exact alike.add same

theorem run {hooks : Hooks} {calls others : List Call} (apart : RunsApart hooks r calls others) :
    (hooks.run r calls).Alike (hooks.run s others) := by
  induction apart generalizing s with
  | done => exact alike
  | step apart _ ih => exact ih (alike.step apart)

end Alike

def shown (entries : List (String × Parameter)) : Document :=
  entries.flatMap fun e => e.2.shownAs e.1

theorem Kept.alone {r : Registry} {name : String} {p : Parameter} (kept : r.Kept)
    (member : (name, p) ∈ r.parameters.entries) : ∃ before after,
      r.parameters.entries = before ++ (name, p) :: after ∧ ∀ e ∈ before ++ after, e.1 ≠ name := by
  obtain ⟨before, after, parts⟩ := List.append_of_mem member
  have rising : (r.parameters.entries.map (·.1)).Pairwise (· < ·) := kept.parameters
  rw [parts, List.map_append, List.map_cons, List.pairwise_append] at rising
  obtain ⟨-, behind, front⟩ := rising
  refine ⟨before, after, parts, ?_⟩
  intro e among same
  rcases List.mem_append.mp among with early | late
  · have less := front e.1 (List.mem_map_of_mem early) name List.mem_cons_self
    exact String.lt_irrefl name (same ▸ less)
  · have less := (List.pairwise_cons.mp behind).1 e.1 (List.mem_map_of_mem late)
    exact String.lt_irrefl name (same ▸ less)

-- Whatever hooks do to their own parameters, and whether or not the values are accepted. A redacted
-- parameter has one element, and that would be the same for any value and any hooks that it had, so
-- its append hook has no part in it. Without hooks of that kind the runs are those of the registry.
theorem redacted_values_never_show (hooks : Hooks) {calls others : List Call}
    (apart : RunsApart hooks .empty calls others) :
    let r := hooks.run .empty calls
    let s := hooks.run .empty others
    r.elements = s.elements ∧ r.headers = s.headers ∧
    (∀ name p, (name, p) ∈ r.parameters.entries → p.header.redacted = true → ∃ before after,
      r.parameters.entries = before ++ (name, p) :: after ∧ (∀ e ∈ before ++ after, e.1 ≠ name) ∧
        r.elements = shown before ++ (name, redaction) :: shown after ∧
        ∀ q : Parameter, q.header = p.header → q.shownAs name = [(name, redaction)]) ∧
    ∀ calls, Hooks.quiet.run .empty calls = Registry.empty.run calls := by
  intro r s
  have alike : r.Alike s := Alike.run ⟨.nil, rfl⟩ apart
  have kept : r.Kept := Hooks.kept_run kept_empty calls
  refine ⟨?_, ?_, ?_, Hooks.quiet_run .empty⟩
  · simpa [Registry.elements, NameMap.values, List.flatMap_map] using
      AlikeEntries.elements alike.parameters
  · simpa [Registry.headers, NameMap.values, Function.comp_def] using
      AlikeEntries.headers alike.parameters
  · intro name p member redacted
    obtain ⟨before, after, parts, alone⟩ := kept.alone member
    refine ⟨before, after, parts, alone, ?_, ?_⟩
    · rw [kept.elements, parts, List.flatMap_append, List.flatMap_cons,
        Parameter.shownAs_redacted redacted]
      rfl
    · intro q same
      exact Parameter.shownAs_redacted (same ▸ redacted) name

def pin (show? : Option (String → Document)) : Parameter :=
  .hooked { header := { name := "pin", setAt := .runtimeOnly, redacted := true }, show? }

def code : Parameter :=
  .stored .int32 { header := { name := "code", setAt := .startupOnly, redacted := true } }

-- The one run sets the redacted parameters, the other tries to; both set the port.
def locked (show? : Option (String → Document)) (first second : String) : List Call :=
  [.add (pin show?), .add port, .add code, .addAlias "oldCode" "code", .set "oldCode" first,
    .set "pin" second, .set "port" "27017"]

theorem redacted_values_never_show_locked :
    let r := Registry.empty.run (locked none "1234" "open")
    let s := Registry.empty.run (locked (some fun name => [(name, .string "leaked")]) "none" "")
    r.elements = s.elements ∧
      s.elements = [("code", redaction), ("pin", redaction), ("port", .int32 27017)] := by
  intro r s
  have apart : RunsApart .quiet .empty (locked none "1234" "open")
      (locked (some fun name => [(name, .string "leaked")]) "none" "") := by
    refine .step (.added (.inr ⟨rfl, rfl⟩)) (.step .same (.step .same (.step .same
      (.step (.secret ?_) (.step (.secret ?_) (.step .same .done))))))
    · intro p found
      cases found
      rfl
    · intro p found
      cases found
      rfl
  obtain ⟨same, -, -, runs⟩ := redacted_values_never_show .quiet apart
  rw [runs, runs] at same
  exact ⟨same, by rfl⟩

end Registry

end WireSchema.Settings
