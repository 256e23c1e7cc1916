import WireSchema.Proofs.Emit.Generation

namespace WireSchema.Emit

open Schema (Report Spec fieldAt lineOf)
open WireSchema.Bound (Field Idl Struct)

-- The steps of a branch are run here, whatever an input makes of their texts. Branches for document
-- sequences store what they decode, so they are not guarded.

-- What an input makes of the texts in steps, at the places of it that they are run at.
structure Input (ι α : Type) where
  passes : List Code → ι → Bool
  decode? : String → ι → Option α
  items : String → ι → List ι
  accepts : Field → α → Bool

structure Work (α : Type) where
  named : List (String × α) := []
  built : List α := []
  stored : List (Field × List α) := []

namespace Work

variable {α : Type}

def values? (w : Work α) (name : String) : Option (List α) :=
  if name = "values" then some w.built else (w.named.lookup name).map ([·])

end Work

section

variable {ι α : Type}

mutual

def Step.run (input : Input ι α) (place : ι) (w : Work α) : Step → Option (Work α)
  | .code lines => if input.passes lines place then some w else none
  | .decode name expression =>
    (input.decode? expression place).map fun v => { w with named := (name, v) :: w.named }
  | .validate f _ value =>
    (w.named.lookup value).bind fun v => if input.accepts f v then some w else none
  | .collect expression =>
    ((w.named.lookup expression).or (input.decode? expression place)).map fun v =>
      { w with built := w.built ++ [v] }
  | .each head body =>
    -- Names that are given inside end there.
    (input.items head place).foldlM (fun w item =>
      (Step.runAll input item w body).map fun after => { after with named := w.named }) w
  | .assign f name =>
    (w.values? name).map fun values => { w with stored := w.stored ++ [(f, values)] }

def Step.runAll (input : Input ι α) (place : ι) (w : Work α) : List Step → Option (Work α)
  | [] => some w
  | s :: rest => (s.run input place w).bind fun next => Step.runAll input place next rest

end

end

-- In whatever input, the validator of the field has accepted each value that is stored in it.
def Arm.Guarded (arm : Arm) : Prop :=
  ∀ (ι α : Type) (input : Input ι α) (place : ι) (after : Work α),
    Step.runAll input place {} arm.steps = some after →
      ∀ values, (arm.field, values) ∈ after.stored → ∀ v ∈ values,
        input.accepts arm.field v = true

def Arm.Fills (arm : Arm) : Prop :=
  ∃ (ι α : Type) (input : Input ι α) (place : ι) (after : Work α),
    Step.runAll input place {} arm.steps = some after ∧
      ∃ values ≠ [], (arm.field, values) ∈ after.stored

mutual

-- The names of accepted values after a step, unless it puts others into the array or a member.
def Step.vet (f : Field) (names : List String) : Step → Option (List String)
  | .code _ => some names
  | .decode name _ => some (names.filter (· != name))
  | .validate g _ value => some (if g = f then value :: names else names)
  | .collect expression => if expression ∈ names then some names else none
  | .each _ body => (Step.vetAll f names body).map fun _ => names
  | .assign _ name => if name = "values" ∨ name ∈ names then some names else none

def Step.vetAll (f : Field) (names : List String) : List Step → Option (List String)
  | [] => some names
  | s :: rest => (s.vet f names).bind fun next => Step.vetAll f next rest

end

section

variable {ι α : Type} {input : Input ι α} {place : ι} {f : Field} {names more : List String}
variable {w after : Work α}

structure Work.Vetted (w : Work α) (input : Input ι α) (f : Field) (names : List String) :
    Prop where
  named : ∀ name ∈ names, ∃ v, w.named.lookup name = some v ∧ input.accepts f v = true
  built : ∀ v ∈ w.built, input.accepts f v = true
  stored : ∀ values, (f, values) ∈ w.stored → ∀ v ∈ values, input.accepts f v = true

theorem Work.Vetted.values (vetted : w.Vetted input f names) {name : String} {values : List α}
    (known : name = "values" ∨ name ∈ names) (found : w.values? name = some values) :
    ∀ v ∈ values, input.accepts f v = true := by
  unfold Work.values? at found
  split at found
  · cases found
    exact vetted.built
  · rename_i single
    obtain ⟨v, held, rfl⟩ := Option.map_eq_some_iff.mp found
    obtain ⟨u, same, accepted⟩ := vetted.named name (known.resolve_left single)
    cases held.symm.trans same
    simpa using accepted

theorem Work.Vetted.decode (vetted : w.Vetted input f names) (name : String) (v : α) :
    { w with named := (name, v) :: w.named }.Vetted input f (names.filter (· != name)) := by
  refine ⟨?_, vetted.built, vetted.stored⟩
  intro other kept
  obtain ⟨member, apart⟩ := List.mem_filter.mp kept
  obtain ⟨u, held, accepted⟩ := vetted.named other member
  refine ⟨u, ?_, accepted⟩
  have different : (other == name) = false := by simpa using apart
  rw [List.lookup_cons, different]
  exact held

theorem Work.Vetted.collect (vetted : w.Vetted input f names) {v : α}
    (accepted : input.accepts f v = true) :
    { w with built := w.built ++ [v] }.Vetted input f names := by
  refine ⟨vetted.named, ?_, vetted.stored⟩
  intro u member
  rcases List.mem_append.mp member with before | last
  · exact vetted.built u before
  · rw [List.mem_singleton.mp last]
    exact accepted

theorem Work.Vetted.store (vetted : w.Vetted input f names) {g : Field} {values : List α}
    (accepted : ∀ v ∈ values, input.accepts f v = true) :
    { w with stored := w.stored ++ [(g, values)] }.Vetted input f names := by
  refine ⟨vetted.named, vetted.built, ?_⟩
  intro others member
  rcases List.mem_append.mp member with before | last
  · exact vetted.stored others before
  · cases List.mem_singleton.mp last
    exact accepted

-- A repetition keeps to the names from before it.
theorem Work.Vetted.each {body : ι → Work α → Option (Work α)}
    (step : ∀ item w after, w.Vetted input f names → body item w = some after →
      ∃ more, after.Vetted input f more) {items : List ι}
    (vetted : w.Vetted input f names)
    (ran : items.foldlM (fun w item =>
      (body item w).map fun after => { after with named := w.named }) w = some after) :
    after.Vetted input f names := by
  induction items generalizing w with
  | nil =>
    cases ran
    exact vetted
  | cons item rest ih =>
    rw [List.foldlM_cons] at ran
    obtain ⟨_, once, ran⟩ := Option.bind_eq_some_iff.mp ran
    obtain ⟨done, body, rfl⟩ := Option.map_eq_some_iff.mp once
    obtain ⟨_, inside⟩ := step item w done vetted body
    have kept : { done with named := w.named }.Vetted input f names :=
      ⟨vetted.named, inside.built, inside.stored⟩
    exact ih kept ran

end

mutual

theorem Step.run_vetted {ι α : Type} {input : Input ι α} {place : ι} {f : Field}
    {names more : List String} {w after : Work α} {step : Step}
    (vet : step.vet f names = some more) (vetted : w.Vetted input f names)
    (ran : step.run input place w = some after) : after.Vetted input f more := by
  cases step with
  | code lines =>
    cases vet
    obtain ⟨_, same⟩ := Option.ite_none_right_eq_some.mp ran
    cases same
    exact vetted
  | decode name expression =>
    cases vet
    obtain ⟨v, _, rfl⟩ := Option.map_eq_some_iff.mp ran
    exact vetted.decode name v
  | validate g context value =>
    cases vet
    obtain ⟨v, held, ran⟩ := Option.bind_eq_some_iff.mp ran
    obtain ⟨accepted, same⟩ := Option.ite_none_right_eq_some.mp ran
    cases same
    split
    · rename_i own
      subst own
      refine ⟨?_, vetted.built, vetted.stored⟩
      exact List.forall_mem_cons.mpr ⟨⟨v, held, accepted⟩, vetted.named⟩
    · exact vetted
  | collect expression =>
    obtain ⟨known, same⟩ := Option.ite_none_right_eq_some.mp vet
    cases same
    obtain ⟨v, found, rfl⟩ := Option.map_eq_some_iff.mp ran
    obtain ⟨u, held, accepted⟩ := vetted.named expression known
    rw [held] at found
    cases found
    exact vetted.collect accepted
  | each head body =>
    obtain ⟨_, inner, rfl⟩ := Option.map_eq_some_iff.mp vet
    refine vetted.each (fun item w after vetted ran => ?_) ran
    exact ⟨_, Step.runAll_vetted inner vetted ran⟩
  | assign g name =>
    obtain ⟨known, same⟩ := Option.ite_none_right_eq_some.mp vet
    cases same
    obtain ⟨values, found, rfl⟩ := Option.map_eq_some_iff.mp ran
    exact vetted.store (vetted.values known found)

theorem Step.runAll_vetted {ι α : Type} {input : Input ι α} {place : ι} {f : Field}
    {names more : List String} {w after : Work α} {steps : List Step}
    (vet : Step.vetAll f names steps = some more) (vetted : w.Vetted input f names)
    (ran : Step.runAll input place w steps = some after) : after.Vetted input f more := by
  cases steps with
  | nil =>
    cases vet
    cases ran
    exact vetted
  | cons step rest =>
    obtain ⟨_, first, vet⟩ := Option.bind_eq_some_iff.mp vet
    obtain ⟨_, here, ran⟩ := Option.bind_eq_some_iff.mp ran
    exact Step.runAll_vetted vet (Step.run_vetted first vetted here) ran

end

theorem Arm.guarded_of_vet {arm : Arm} {names : List String}
    (vet : Step.vetAll arm.field [] arm.steps = some names) : arm.Guarded := by
  intro ι α input place after ran
  exact (Step.runAll_vetted vet ⟨by simp, by simp, by simp⟩ ran).stored

section

variable {f : Field} {t : Tracking} {arm : Arm} {names : List String} {first rest : List Step}

theorem Step.vetAll_append : Step.vetAll f names (first ++ rest) =
    (Step.vetAll f names first).bind fun next => Step.vetAll f next rest := by
  induction first generalizing names with
  | nil => rfl
  | cons step others ih =>
    rw [List.cons_append, Step.vetAll, Step.vetAll, Option.bind_assoc]
    exact congrArg _ (funext fun _ => ih)

theorem validation_own (own : f.owner = none) (given : f.validator.isSome = true)
    {context value : String} : validation f context value = [.validate f context value] := by
  simp [validation, own, given]

theorem fieldSteps_vet (own : f.owner = none) (given : f.validator.isSome = true)
    {source : ElementSource} {steps : List Step} {value : String}
    (made : fieldSteps f source = .ok (steps, value)) :
    ∃ names, Step.vetAll f [] steps = some names ∧ (value = "values" ∨ value ∈ names) := by
  unfold fieldSteps at made
  simp only [validation_own own given] at made
  split at made
  · obtain ⟨⟨checks, expression⟩, _, made⟩ := bind_ok_exact.mp made
    cases made
    exact ⟨["value"], by simp [Step.vetAll, Step.vet], .inr (by simp)⟩
  · obtain ⟨⟨checks, expression⟩, _, made⟩ := bind_ok_exact.mp made
    cases made
    exact ⟨[], by simp [Step.vetAll, Step.vet], .inl rfl⟩

theorem elementArm_field (made : elementArm t f = .ok arm) : arm.field = f := by
  unfold elementArm at made
  simp only at made
  split at made
  · cases made
    rfl
  · obtain ⟨_, _, made⟩ := bind_ok_exact.mp made
    cases made
    rfl

theorem hasStorage_exact : f.hasStorage = true ↔ f.ignore = false ∧ f.owner = none := by
  simp [Field.hasStorage]

theorem elementArm_guarded (stored : f.hasStorage = true) (given : f.validator.isSome = true)
    (made : elementArm t f = .ok arm) : arm.Guarded := by
  obtain ⟨taken, own⟩ := hasStorage_exact.mp stored
  unfold elementArm at made
  simp only [taken, Bool.false_eq_true, if_false] at made
  obtain ⟨⟨steps, value⟩, filled, made⟩ := bind_ok_exact.mp made
  cases made
  obtain ⟨names, vet, known⟩ := fieldSteps_vet own given filled
  have whole : Step.vetAll f [] ([Step.code (t.meetField f "field_name")] ++ steps ++
      [.assign f value]) = some names := by
    simp only [Step.vetAll_append, Step.vetAll, Step.vet, Option.bind_some, vet, if_pos known]
  exact Arm.guarded_of_vet whole

-- All checks pass, and there is one value, which validators accept or not.
def oneValue (accepts : Bool) : Input Unit Unit where
  passes _ _ := true
  decode? _ _ := some ()
  items _ _ := [()]
  accepts _ _ := accepts

theorem elementArm_fills (stored : f.hasStorage = true) (made : elementArm t f = .ok arm) :
    arm.Fills := by
  obtain ⟨taken, own⟩ := hasStorage_exact.mp stored
  unfold elementArm fieldSteps validation at made
  simp only [taken, own, Bool.false_eq_true, if_false] at made
  obtain ⟨⟨steps, value⟩, filled, made⟩ := bind_ok_exact.mp made
  cases made
  split at filled
  all_goals
    obtain ⟨_, _, filled⟩ := bind_ok_exact.mp filled
    cases filled
    refine ⟨Unit, Unit, oneValue true, (), ?_⟩
    cases f.validator.isSome <;>
      simp [Step.runAll, Step.run, oneValue, Work.values?]

theorem sequenceArm_unguarded (made : sequenceArm t f = .ok arm) :
    arm.field = f ∧ ¬arm.Guarded := by
  obtain ⟨value, _, made⟩ := bind_ok_exact.mp made
  cases made
  refine ⟨rfl, fun guarded => ?_⟩
  have accepted := guarded _ _ (oneValue false) () { built := [()], stored := [(f, [()])] }
    (by simp [Step.runAll, Step.run, oneValue, Work.values?]) [()] (by simp) () (by simp)
  simp [oneValue] at accepted

end

def elementCode (k : Flavour) (s : Struct) (arms : List Arm) : List Code :=
  let elements := (commandElement k).2
  [.braces s!"for (field_name, element) in {elements}"
    ((Tracking.of s).meetName "field_name" ++
      branches "field_name" arms (otherNames k s arms.isEmpty)),
   .gap]

def sequenceCode (arms : List Arm) : List Code :=
  if arms.isEmpty then
    [.braces "if let Some(sequence) = sequences.first()" [unknownField "&sequence.name"], .gap]
  else
    [.braces "for sequence in sequences"
      (branches "sequence.name" arms
        [.line "\x7d else \x7b", .indented [unknownField "&sequence.name"], .line "\x7d"]),
     .gap]

def fillCode (k : Flavour) (s : Struct) (elements sequences : List Arm)
    (chained command : List Code) : List Code :=
  let t := Tracking.of s
  let fields := wireFields s
  [.braces k.fillSignature
    (t.declaration fields ++ (commandElement k).1 ++ elementCode k s elements ++
      (if k.isCommand then sequenceCode sequences else []) ++ t.completion fields ++ chained ++
      command ++ [.line "Ok(())"]),
   .gap]

structure FilledBy (k : Flavour) (s : Struct) (code : List Code) (elements sequences : List Arm) :
    Prop where
  fromElements : (wireFields s).mapM (elementArm (Tracking.of s)) = .ok elements
  fromSequences : (if k.isCommand then s.docSequenceFields else []).mapM
    (sequenceArm (Tracking.of s)) = .ok sequences
  whole : ∃ chained command, chainedParsers s = .ok chained ∧ commandValue k = .ok command ∧
    code = fillCode k s elements sequences chained command

section

variable {k : Flavour} {s : Struct} {code : List Code}

theorem elementLoop_parts (ran : elementLoop k s (commandElement k).2 = .ok code) :
    ∃ arms, (wireFields s).mapM (elementArm (Tracking.of s)) = .ok arms ∧
      code = elementCode k s arms := by
  have busy : (!(Tracking.of s).isActive (wireFields s) && (wireFields s).isEmpty &&
      !s.strict) = false := by
    unfold Tracking.of
    cases s.strict <;> simp [Tracking.isActive]
  unfold elementLoop at ran
  simp only [busy, Bool.false_eq_true, if_false] at ran
  obtain ⟨arms, made, ran⟩ := bind_ok_exact.mp ran
  cases ran
  exact ⟨arms, made, rfl⟩

theorem sequenceLoop_parts (ran : sequenceLoop s = .ok code) :
    ∃ arms, s.docSequenceFields.mapM (sequenceArm (Tracking.of s)) = .ok arms ∧
      code = sequenceCode arms := by
  unfold sequenceLoop at ran
  simp only at ran
  cases fields : s.docSequenceFields with
  | nil =>
    rw [fields] at ran
    cases ran
    exact ⟨[], rfl, rfl⟩
  | cons f rest =>
    rw [fields] at ran
    obtain ⟨arms, made, ran⟩ := bind_ok_exact.mp ran
    cases ran
    refine ⟨arms, made, ?_⟩
    obtain ⟨arm, there, _⟩ := (mapM_ok_parts made).1 f List.mem_cons_self
    cases arms with
    | nil => cases there
    | cons first others => rfl

theorem fillMethod_parts (filled : fillMethod k s = .ok code) :
    ∃ elements sequences, FilledBy k s code elements sequences := by
  unfold fillMethod at filled
  simp only at filled
  obtain ⟨_, loop, filled⟩ := bind_ok_exact.mp filled
  obtain ⟨elements, element, rfl⟩ := elementLoop_parts loop
  split at filled
  · rename_i isCommand
    obtain ⟨_, requests, filled⟩ := bind_ok_exact.mp filled
    obtain ⟨sequences, sequence, rfl⟩ := sequenceLoop_parts requests
    obtain ⟨chained, readers, filled⟩ := bind_ok_exact.mp filled
    obtain ⟨command, value, filled⟩ := bind_ok_exact.mp filled
    cases filled
    refine ⟨elements, sequences, element, by rw [if_pos isCommand]; exact sequence, chained,
      command, readers, value, ?_⟩
    simp only [fillCode, isCommand, if_true]
  · rename_i plain
    obtain ⟨_, requests, filled⟩ := bind_ok_exact.mp filled
    cases requests
    obtain ⟨chained, readers, filled⟩ := bind_ok_exact.mp filled
    obtain ⟨command, value, filled⟩ := bind_ok_exact.mp filled
    cases filled
    refine ⟨elements, [], element, by rw [if_neg plain]; rfl, chained, command, readers, value, ?_⟩
    simp only [fillCode, plain, Bool.false_eq_true, if_false]

theorem flavour_isCommand (flavour : Flavour.of s = .ok k) : k.isCommand = s.isCommand := by
  unfold Flavour.of at flavour
  unfold Struct.isCommand
  cases command : s.command with
  | none =>
    simp only [command] at flavour
    cases flavour
    rfl
  | some c =>
    simp only [command] at flavour
    split at flavour
    · cases flavour
      rfl
    · cases flavour
      rfl
    · cases flavour
      rfl
    · split at flavour
      · cases flavour
        rfl
      · cases flavour

theorem validated_onWire {symbols : Schema.SymbolTable} {f : Field}
    (bound : Bound.FieldBound symbols f) (given : f.validator.isSome = true) :
    f.chained = false := by
  cases bound with
  | chainedType known chain => cases given
  | chainedStruct => cases given
  | inlined bound => exact (Bound.bindField_binds bound).chained
  | own bound => exact (Bound.bindField_binds bound).chained
  | database known =>
    obtain ⟨_, _, rfl⟩ := Option.map_eq_some_iff.mp known
    rfl

theorem FilledBy.element {elements sequences : List Arm} {f : Field}
    (filled : FilledBy k s code elements sequences) (onWire : f ∈ wireFields s) :
    ∃ arm ∈ elements, arm.field = f := by
  obtain ⟨arm, there, made⟩ := (mapM_ok_parts filled.fromElements).1 f onWire
  exact ⟨arm, there, elementArm_field made⟩

theorem FilledBy.elementArm {elements sequences : List Arm} {arm : Arm}
    (filled : FilledBy k s code elements sequences) (there : arm ∈ elements) :
    Emit.elementArm (Tracking.of s) arm.field = .ok arm := by
  obtain ⟨f, _, made⟩ := (mapM_ok_parts filled.fromElements).2 arm there
  rw [elementArm_field made]
  exact made

theorem FilledBy.sequence_exact {elements sequences : List Arm} {f : Field}
    (filled : FilledBy k s code elements sequences) (member : f ∈ s.fields)
    (command : f.docSequence = true → k.isCommand = true) :
    (∀ arm ∈ sequences, arm.field = f → arm.Guarded) ↔ f.docSequence = false := by
  have made := mapM_ok_parts filled.fromSequences
  constructor
  · intro guarded
    by_contra taken
    have flagged : f.docSequence = true := by simpa using taken
    rw [if_pos (command flagged)] at made
    obtain ⟨arm, there, made⟩ := made.1 f (List.mem_filter.mpr ⟨member, flagged⟩)
    obtain ⟨field, unguarded⟩ := sequenceArm_unguarded made
    exact unguarded (guarded arm there field)
  · intro untaken arm there field
    obtain ⟨g, among, made⟩ := made.2 arm there
    have same : g = f := (sequenceArm_unguarded made).1.symm.trans field
    split at among
    · have flagged : g.docSequence = true := (List.mem_filter.mp among).2
      rw [same, untaken] at flagged
      cases flagged
    · cases among

end

-- Values for a field with a validator are validated in the branch for elements, each item of an
-- array by itself. They are in all branches if and only if the field takes no document sequences.
theorem validation_exact {spec : Spec} {idl : Idl} (bound : Bound.bind spec = .ok idl) {s : Struct}
    (member : s ∈ idl.structs) {k : Flavour} (flavour : Flavour.of s = .ok k) {code : List Code}
    (filled : fillMethod k s = .ok code) :
    ∃ elements sequences, FilledBy k s code elements sequences ∧
      ∀ f ∈ s.fields, f.hasStorage = true → f.validator.isSome = true →
        (∃ arm ∈ elements, arm.field = f) ∧
        (∀ arm ∈ elements, arm.field = f → arm.Fills ∧ arm.Guarded) ∧
        ((∀ arm ∈ sequences, arm.field = f → arm.Guarded) ↔ f.docSequence = false) := by
  obtain ⟨_, _, structs⟩ := Bound.bind_parts bound
  have wellFormed := (structs s member).wellFormed
  obtain ⟨elements, sequences, filled⟩ := fillMethod_parts filled
  refine ⟨elements, sequences, filled, fun f among stored given => ⟨?_, ?_, ?_⟩⟩
  · apply filled.element
    have onWire := validated_onWire ((structs s member).field among) given
    exact List.mem_filter.mpr ⟨among, by simp [onWire]⟩
  · rintro arm there rfl
    have made := filled.elementArm there
    exact ⟨elementArm_fills stored made, elementArm_guarded stored given made⟩
  · apply filled.sequence_exact among
    intro flagged
    rw [flavour_isCommand flavour]
    exact (wellFormed.sequences f among flagged).2

section

-- A plot has a size and points, which are validated both; points may come in document sequences.
def plotting : Spec :=
  { symbols := {
      structs := [
        { location := lineOf "plot.idl" 1, name := "point"
          fields := [fieldAt (lineOf "plot.idl" 2) "x" "int"] }]
      commands := [
        { commandName := "plot"
          base := { location := lineOf "plot.idl" 4, name := "plot", fields := [
            { fieldAt (lineOf "plot.idl" 5) "size" "int" with
              validator := some { location := lineOf "plot.idl" 5, gt := some "0" } },
            { location := lineOf "plot.idl" 6, name := "points", type := some (.array "point")
              validator := some { location := lineOf "plot.idl" 6, callback := some "check_point" }
              docSequence := true }] } }] } }

def sizeField : Field :=
  { Bound.intField "size" "size" with
    validator := some { gt := some "0", lt := none, gte := none, lte := none, callback := none } }

def pointsField : Field :=
  { name := "points", rustName := "points", kind := .struct ⟨"point", "Point"⟩, array := true
    validator := some {
      gt := none, lt := none, gte := none, lte := none, callback := some "check_point" }
    docSequence := true }

def databaseField : Field :=
  { name := "$db", rustName := "db_name"
    description := some "The database name the command runs against."
    kind := .basic (Bound.basicTypeOf (Schema.builtinType "string" "String" "string"))
    requestOnly := true }

def boundPlot : Struct :=
  { Bound.boundStruct "plot" "Plot" [sizeField, pointsField, databaseField] with
    command := some {
      commandName := "plot", namespaceRule := .ignored, commandField := none, apiVersion := ""
      replyType := none } }

theorem plotting_bound : ∃ idl, Bound.bind plotting = .ok idl ∧ boundPlot ∈ idl.structs := by
  have bound : Bound.bind plotting = .ok (Bound.bindAll plotting).value :=
    Report.toExcept_of_clean (by decide +kernel)
  exact ⟨_, bound, by decide +kernel⟩

theorem boundPlot_filled : ∃ code, fillMethod .ignored boundPlot = .ok code :=
  ⟨_, rfl⟩

theorem validation_exact_plot :
    ∃ idl, Bound.bind plotting = .ok idl ∧ boundPlot ∈ idl.structs ∧
      Flavour.of boundPlot = .ok .ignored ∧ ∃ code, fillMethod .ignored boundPlot = .ok code ∧
        ∃ elements sequences, FilledBy .ignored boundPlot code elements sequences ∧
          (∀ f ∈ [sizeField, pointsField], (∃ arm ∈ elements, arm.field = f) ∧
            ∀ arm ∈ elements, arm.field = f → arm.Fills ∧ arm.Guarded) ∧
          (∀ arm ∈ sequences, arm.field = sizeField → arm.Guarded) ∧
          ∃ arm ∈ sequences, arm.field = pointsField ∧ ¬arm.Guarded := by
  obtain ⟨idl, bound, member⟩ := plotting_bound
  obtain ⟨code, filled⟩ := boundPlot_filled
  obtain ⟨elements, sequences, parts, exact⟩ := validation_exact bound member rfl filled
  have size := exact sizeField (by simp [boundPlot, Bound.boundStruct]) rfl rfl
  have points := exact pointsField (by simp [boundPlot, Bound.boundStruct]) rfl rfl
  refine ⟨idl, bound, member, rfl, code, filled, elements, sequences, parts, ?_, ?_, ?_⟩
  · intro f among
    rcases List.mem_pair.mp among with rfl | rfl
    · exact ⟨size.1, size.2.1⟩
    · exact ⟨points.1, points.2.1⟩
  · exact size.2.2.mpr rfl
  · by_contra none
    have guarded : ∀ arm ∈ sequences, arm.field = pointsField → arm.Guarded :=
      fun arm there field => by_contra fun unguarded => none ⟨arm, there, field, unguarded⟩
    exact absurd (points.2.2.mp guarded) (by decide)

-- Points from a document sequence are parsed and stored, and that is all.
theorem sequence_unvalidated :
    ∃ idl, Bound.bind plotting = .ok idl ∧ boundPlot ∈ idl.structs ∧
      pointsField ∈ boundPlot.fields ∧ pointsField.hasStorage = true ∧
      pointsField.validator.isSome = true ∧ Flavour.of boundPlot = .ok .ignored ∧
      ∃ code elements arm, fillMethod .ignored boundPlot = .ok code ∧
        FilledBy .ignored boundPlot code elements [arm] ∧ arm.field = pointsField ∧
        Step.renderAll arm.steps =
          [.line "if used_fields[POINTS_BIT] \x7b",
           .indented [.line "return Err(ctxt.duplicate_field(Self::POINTS_FIELD_NAME));"],
           .line "\x7d",
           .line "used_fields[POINTS_BIT] = true;",
           .gap,
           .line "let mut values = Vec::new();",
           .braces "for sequence_object in &sequence.objs"
            [.line "values.push(Point::parse(&ParserContext::with_parent(Self::POINTS_FIELD_NAME, ctxt), sequence_object)?);"],
           .line "self.points = values;",
           .line "self.has_points = true;"] ∧
        ¬arm.Guarded := by
  obtain ⟨idl, bound, member⟩ := plotting_bound
  obtain ⟨code, filled⟩ := boundPlot_filled
  obtain ⟨elements, sequences, parts⟩ := fillMethod_parts filled
  have made : [pointsField].mapM (sequenceArm .bits) = .ok sequences := parts.fromSequences
  cases made
  refine ⟨idl, bound, member, by simp [boundPlot, Bound.boundStruct], rfl, rfl, rfl, code, elements, _, filled, parts,
    rfl, rfl, ?_⟩
  exact (sequenceArm_unguarded (t := .bits) (f := pointsField) rfl).2

end

end WireSchema.Emit
