import WireSchema.Bound.Binding
import WireSchema.Proofs.Bound.Fields

namespace WireSchema.Bound

open Schema (Chained CommandDef FieldDef Location Report Resolved Spec StructDef SymbolTable
  fieldAt lineOf)

-- The rules are checked in many places that report a fault and go on; a schema is bound only if
-- none of them had anything to report.

-- The name of a field on the wire. A chained member has none.
def Field.wireName? (f : Field) : Option String :=
  if f.chained then none else some f.name

-- The member that stores a field. An inlined field is stored by its owner.
def Field.member? (f : Field) : Option String :=
  if f.owner.isNone then some f.rustName else none

def Field.order? (f : Field) : Option Int :=
  if 0 ≤ f.comparisonOrder then some f.comparisonOrder else none

def Field.HoldsSequence (f : Field) : Prop :=
  f.array = true ∧
    ((∃ target, f.kind = .struct target) ∨ ∃ t, f.kind = .basic t ∧ t.isDocument = true)

structure Command.WellFormed (c : Command) (fields : List Field) : Prop where
  database : ∃ earlier last, fields = earlier ++ [last] ∧ last.wireName? = some "$db" ∧
    ∀ f ∈ earlier, f.wireName? ≠ some "$db"
  element : c.commandField.isSome = true ↔ c.namespaceRule = .typed
  elementField : ∀ f, c.commandField = some f → f.WellFormed

structure Struct.WellFormed (s : Struct) : Prop where
  names : (s.fields.filterMap (·.wireName?)).Nodup
  members : (s.fields.filterMap (·.member?)).Nodup
  orders : (s.fields.filterMap (·.order?)).Nodup
  fields : ∀ f ∈ s.fields, f.WellFormed
  sequences : ∀ f ∈ s.fields, f.docSequence = true → f.HoldsSequence ∧ s.isCommand = true
  command : ∀ c, s.command = some c → c.WellFormed s.fields

section

variable {symbols : SymbolTable} {s : StructDef} {c : Chained} {placed : List Placed}

theorem chainedMember_wellFormed {kind : FieldKind} (single : ∀ v, kind ≠ .variant v) :
    (chainedMember c kind).WellFormed := by
  refine ⟨⟨?_, ?_⟩, ?_, ?_, ?_⟩
  · exact fun array => (nomatch array)
  · exact fun v same => absurd same (single v)
  · exact fun _ => rfl
  · exact fun _ => rfl
  · exact fun _ => rfl

theorem bindChainedType_wellFormed (bound : bindChainedType symbols s c = pure placed) :
    ∀ p ∈ placed, p.1.WellFormed := by
  unfold bindChainedType at bound
  split at bound
  · exact absurd bound Report.complain_bind
  · split at bound
    · exact absurd bound Report.complain_bind
    · simp only at bound
      split at bound
      · exact absurd bound Report.complain_bind
      · cases Report.pure_clean.mp bound
        intro p member
        cases List.mem_singleton.mp member
        exact chainedMember_wellFormed fun v same => (nomatch same)
  · exact absurd bound Report.complain_bind

theorem inlineField_wellFormed {target : StructDef} {member : String} {f : FieldDef}
    (bound : inlineField symbols c target member f = pure placed) :
    ∀ p ∈ placed, p.1.WellFormed := by
  obtain ⟨declared, binds, bound⟩ := Report.bind_clean.mp bound
  cases declared with
  | none =>
    cases Report.pure_clean.mp bound
    simp
  | some b =>
    simp only at bound
    split at bound
    · exact absurd bound Report.complain_bind
    · rename_i single
      cases Report.pure_clean.mp bound
      intro p there
      cases List.mem_singleton.mp there
      obtain ⟨kind, optional, array, _⟩ := (bindField_binds binds).wellFormed
      exact ⟨kind, optional, array, fun _ => by simpa using single⟩

theorem inlineFields_wellFormed {target : StructDef} {member : String} {fields : List FieldDef}
    (bound : inlineFields symbols c target member fields = pure placed) :
    ∀ p ∈ placed, p.1.WellFormed := by
  induction fields generalizing placed with
  | nil =>
    cases Report.pure_clean.mp bound
    simp
  | cons f rest ih =>
    obtain ⟨first, inlined, bound⟩ := Report.bind_clean.mp bound
    obtain ⟨more, others, bound⟩ := Report.bind_clean.mp bound
    cases Report.pure_clean.mp bound
    intro p there
    rcases List.mem_append.mp there with here | later
    · exact inlineField_wellFormed inlined p here
    · exact ih others p later

theorem bindChainedStruct_wellFormed (bound : bindChainedStruct symbols s c = pure placed) :
    ∀ p ∈ placed, p.1.WellFormed := by
  have member {target : StructDef} : (chainedMember c (.struct (structRefOf target))).WellFormed :=
    chainedMember_wellFormed fun v same => (nomatch same)
  unfold bindChainedStruct at bound
  split at bound
  · exact absurd bound Report.complain_bind
  · split at bound
    · exact absurd bound Report.complain_bind
    · simp only at bound
      split at bound
      · split at bound
        · exact absurd bound Report.complain_bind
        · cases Report.pure_clean.mp bound
          intro p there
          cases List.mem_singleton.mp there
          exact member
      · split at bound
        · exact absurd bound Report.complain_bind
        · obtain ⟨inlined, ran, bound⟩ := Report.bind_clean.mp bound
          cases Report.pure_clean.mp bound
          intro p there
          rcases List.mem_cons.mp there with rfl | later
          · exact member
          · exact inlineFields_wellFormed ran p later

theorem bindOwnFields_wellFormed {rustName : String} {fields : List FieldDef}
    (bound : bindOwnFields symbols rustName fields = pure placed) :
    ∀ p ∈ placed, p.1.WellFormed := by
  induction fields generalizing placed with
  | nil =>
    cases Report.pure_clean.mp bound
    simp
  | cons f rest ih =>
    obtain ⟨declared, binds, bound⟩ := Report.bind_clean.mp bound
    obtain ⟨more, others, bound⟩ := Report.bind_clean.mp bound
    cases Report.pure_clean.mp bound
    intro p there
    rcases List.mem_append.mp there with here | later
    · cases declared with
      | none => simp at here
      | some b =>
        cases List.mem_singleton.mp here
        exact (bindField_binds binds).wellFormed
    · exact ih others p later

theorem dbNameField?_exact (symbols : SymbolTable) :
    ∃ db, dbNameField? symbols = some db ∧ db.WellFormed ∧ db.wireName? = some "$db" := by
  refine ⟨_, rfl, ⟨⟨?_, ?_⟩, ?_, ?_, ?_⟩, rfl⟩
  · exact fun array => (nomatch array)
  · exact fun v same => (nomatch same)
  · exact fun _ => rfl
  · exact fun _ => rfl
  · exact fun _ => rfl

theorem bindFields_wellFormed {isCommand : Bool}
    (bound : bindFields symbols s isCommand = pure placed) :
    (∀ p ∈ placed, p.1.WellFormed) ∧ (isCommand = true → ∃ earlier last,
      placed = earlier ++ [last] ∧ last.1.wireName? = some "$db") := by
  obtain ⟨types, chainedTypes, bound⟩ := Report.bind_clean.mp bound
  obtain ⟨structs, chainedStructs, bound⟩ := Report.bind_clean.mp bound
  obtain ⟨own, fields, bound⟩ := Report.bind_clean.mp bound
  obtain ⟨db, known, database, named⟩ := dbNameField?_exact symbols
  cases Report.pure_clean.mp bound
  constructor
  · intro p there
    simp only [List.mem_append, List.mem_flatten, known] at there
    rcases there with ((⟨part, within, there⟩ | ⟨part, within, there⟩) | there) | there
    · obtain ⟨c, _, bound⟩ := Report.mapM_clean chainedTypes part within
      exact bindChainedType_wellFormed bound p there
    · obtain ⟨c, _, bound⟩ := Report.mapM_clean chainedStructs part within
      exact bindChainedStruct_wellFormed bound p there
    · exact bindOwnFields_wellFormed fields p there
    · cases isCommand with
      | false => simp at there
      | true =>
        cases List.mem_singleton.mp there
        exact database
  · rintro rfl
    exact ⟨types.flatten ++ structs.flatten ++ own, (db, s.location), by simp [known], named⟩

structure Claims {α : Type} (key : Field → Option α) (done : List Placed) (taken : List α) :
    Prop where
  keys : taken = (done.filterMap (key ·.1)).reverse
  distinct : taken.Nodup

theorem Claims.add {α : Type} {key : Field → Option α} {done : List Placed} {taken : List α}
    (claims : Claims key done taken) {p : Placed} (fresh : ∀ k ∈ key p.1, k ∉ taken) :
    Claims key (done ++ [p]) ((key p.1).toList ++ taken) := by
  cases given : key p.1 with
  | none => exact ⟨by simp [claims.keys, given], claims.distinct⟩
  | some k =>
    refine ⟨by simp [claims.keys, given], ?_⟩
    exact List.nodup_cons.mpr ⟨fresh k given, claims.distinct⟩

theorem Claims.nodup {α : Type} {key : Field → Option α} {taken : List α}
    (claims : Claims key placed taken) : ((placed.map (·.1)).filterMap key).Nodup := by
  rw [List.filterMap_map, ← (List.reverse_perm _).nodup_iff]
  have distinct := claims.distinct
  rw [claims.keys] at distinct
  exact distinct

structure Passed (isCommand : Bool) (done : List Placed) (taken : Taken) : Prop where
  names : Claims (·.wireName?) done taken.names
  members : Claims (·.member?) done taken.members
  orders : Claims (·.order?) done taken.orders
  sequences : ∀ p ∈ done, p.1.docSequence = true → p.1.HoldsSequence ∧ isCommand = true

theorem checkSequence_clean {isCommand : Bool} {f : Field} {location : Location}
    (checked : checkSequence s isCommand f location = pure ()) (marked : f.docSequence = true) :
    f.HoldsSequence ∧ isCommand = true := by
  unfold checkSequence at checked
  split at checked
  · simp_all
  · split at checked
    · simp at checked
    · rename_i holds
      split at checked
      · simp at checked
      · rename_i inside
        simp only [Bool.or_eq_true, Bool.not_eq_true', not_or, Bool.not_eq_false] at holds
        refine ⟨⟨holds.1, ?_⟩, by simpa using inside⟩
        cases kind : f.kind with
        | struct target => exact .inl ⟨target, rfl⟩
        | basic t => exact .inr ⟨t, rfl, by simpa [kind, holdsObjects] using holds.2⟩
        | enum target => simp [kind, holdsObjects] at holds
        | variant v => simp [kind, holdsObjects] at holds

theorem checkField_passed {isCommand : Bool} {done : List Placed} {p : Placed}
    {taken next : Taken} (passed : Passed isCommand done taken)
    (checked : checkField s isCommand taken p = pure next) :
    Passed isCommand (done ++ [p]) next := by
  obtain ⟨f, location⟩ := p
  unfold checkField at checked
  simp only at checked
  split at checked
  · exact absurd checked Report.complain_bind
  · rename_i newName
    obtain ⟨_, newMember, checked⟩ := Report.bind_clean.mp checked
    obtain ⟨_, newOrder, checked⟩ := Report.bind_clean.mp checked
    obtain ⟨_, sequence, checked⟩ := Report.bind_clean.mp checked
    obtain ⟨_, _, checked⟩ := Report.bind_clean.mp checked
    rw [Report.complainIf_clean] at newMember newOrder
    cases Report.pure_clean.mp checked
    have names : (if f.chained then taken.names else f.name :: taken.names) =
        f.wireName?.toList ++ taken.names := by
      unfold Field.wireName?
      split <;> rfl
    have members : (if f.owner.isNone then f.rustName :: taken.members else taken.members) =
        f.member?.toList ++ taken.members := by
      unfold Field.member?
      split <;> rfl
    have orders : (if 0 ≤ f.comparisonOrder then f.comparisonOrder :: taken.orders
        else taken.orders) = f.order?.toList ++ taken.orders := by
      unfold Field.order?
      split <;> rfl
    rw [names, members, orders]
    refine ⟨passed.names.add ?_, passed.members.add ?_, passed.orders.add ?_, ?_⟩
    · intro name given
      obtain ⟨own, rfl⟩ : f.chained = false ∧ f.name = name := by
        simpa [Field.wireName?] using given
      simpa [own] using newName
    · intro member given
      obtain ⟨own, rfl⟩ : f.owner = none ∧ f.rustName = member := by
        simpa [Field.member?] using given
      simpa [own] using newMember
    · intro order given
      obtain ⟨ordered, rfl⟩ : 0 ≤ f.comparisonOrder ∧ f.comparisonOrder = order := by
        simpa [Field.order?] using given
      simpa [ordered] using newOrder
    · intro p there marked
      rcases List.mem_append.mp there with before | last
      · exact passed.sequences p before marked
      · cases List.mem_singleton.mp last
        exact checkSequence_clean sequence marked

-- A command is bound as a struct first and named afterwards, so what is known about the struct is
-- said for every command that it may be given.
theorem bindStruct_wellFormed {isCommand : Bool} {b : Struct}
    (bound : bindStruct symbols s isCommand = pure (some b)) :
    b.command = none ∧
      (∀ command, (∀ c, command = some c → c.WellFormed b.fields) → command.isSome = isCommand →
        Struct.WellFormed { b with command }) ∧
      (isCommand = true → ∃ earlier last, b.fields = earlier ++ [last] ∧
        last.wireName? = some "$db" ∧ ∀ f ∈ earlier, f.wireName? ≠ some "$db") := by
  obtain ⟨_, same, bound⟩ := Report.ifClean_exact.mp bound
  cases same
  obtain ⟨placed, fields, bound⟩ := Report.bind_clean.mp bound
  obtain ⟨taken, checked, bound⟩ := Report.bind_clean.mp bound
  cases Report.pure_clean.mp bound
  have empty : Passed isCommand [] {} :=
    ⟨⟨rfl, .nil⟩, ⟨rfl, .nil⟩, ⟨rfl, .nil⟩, fun _ there => absurd there List.not_mem_nil⟩
  have passed : Passed isCommand placed taken :=
    Report.foldlM_clean checked empty fun _ _ _ _ => checkField_passed
  obtain ⟨each, database⟩ := bindFields_wellFormed fields
  refine ⟨rfl, ?_, ?_⟩
  · intro command commands same
    refine ⟨passed.names.nodup, passed.members.nodup, passed.orders.nodup, ?_, ?_, commands⟩
    · intro f member
      obtain ⟨p, there, rfl⟩ := List.mem_map.mp member
      exact each p there
    · intro f member marked
      obtain ⟨p, there, rfl⟩ := List.mem_map.mp member
      obtain ⟨holds, inside⟩ := passed.sequences p there marked
      exact ⟨holds, same.trans inside⟩
  · intro isTrue
    obtain ⟨earlier, last, parts, named⟩ := database isTrue
    refine ⟨earlier.map (·.1), last.1, by simp [parts], named, ?_⟩
    have distinct := passed.names.nodup
    rw [parts] at distinct
    simp only [List.map_append, List.filterMap_append, List.nodup_append] at distinct
    intro f member same
    refine distinct.2.2 "$db" (List.mem_filterMap.mpr ⟨f, member, same⟩) "$db" ?_ rfl
    simp [named]

theorem bindStruct_plain {b : Struct} (bound : bindStruct symbols s false = pure (some b)) :
    b.WellFormed := by
  obtain ⟨plain, wellFormed, _⟩ := bindStruct_wellFormed bound
  have same : { b with command := none } = b := by
    rw [← plain]
  rw [← same]
  exact wellFormed none (fun _ given => (nomatch given)) rfl

theorem bindCommandField_wellFormed {d : CommandDef} {element : Option Field}
    (bound : bindCommandField symbols d = pure element) :
    (element.isSome = true ↔ d.namespaceRule = .typed) ∧
      ∀ f, element = some f → f.WellFormed := by
  unfold bindCommandField at bound
  simp only at bound
  split at bound
  · exact absurd bound Report.reject_clean
  · rename_i typed _
    obtain ⟨found, kinds, bound⟩ := Report.bind_clean.mp bound
    obtain ⟨kind, array, rfl, allowed⟩ := bindFieldKind_allowed kinds
    cases Report.pure_clean.mp bound
    refine ⟨by simp [typed], ?_⟩
    intro f same
    cases same
    exact ⟨allowed, fun _ => rfl, fun _ => rfl, fun inlined => (nomatch inlined)⟩
  · exact absurd bound Report.reject_clean
  · rename_i untyped
    cases Report.pure_clean.mp bound
    refine ⟨⟨fun given => (nomatch given), fun typed => ?_⟩, fun _ given => (nomatch given)⟩
    exact absurd typed (by simpa using untyped)

theorem bindCommand_wellFormed {d : CommandDef} {b : Struct}
    (bound : bindCommand symbols d = pure (some b)) : b.WellFormed := by
  obtain ⟨_, clean, bound⟩ := Report.bind_clean.mp bound
  obtain ⟨named, rfl, ran⟩ := Report.ifClean_exact.mp clean
  obtain ⟨base, struct, ran⟩ := Report.bind_clean.mp ran
  obtain ⟨element, elements, ran⟩ := Report.bind_clean.mp ran
  obtain ⟨_, _, ran⟩ := Report.bind_clean.mp ran
  cases Report.pure_clean.mp ran
  obtain ⟨s, rfl, rfl⟩ := Option.map_eq_some_iff.mp (Report.pure_clean.mp bound)
  obtain ⟨_, wellFormed, database⟩ := bindStruct_wellFormed struct
  obtain ⟨given, elementField⟩ := bindCommandField_wellFormed elements
  refine wellFormed _ ?_ rfl
  intro c same
  cases same
  exact ⟨database rfl, given, elementField⟩

end

theorem bindEach_clean {α β : Type} {bind : α → Report (Option β)} {items : List α} {out : List β}
    (bound : bindEach bind items = pure out) : ∀ b ∈ out, ∃ a ∈ items, bind a = pure (some b) := by
  induction items generalizing out with
  | nil =>
    cases Report.pure_clean.mp bound
    simp
  | cons a rest ih =>
    obtain ⟨first, here, bound⟩ := Report.bind_clean.mp bound
    obtain ⟨more, others, bound⟩ := Report.bind_clean.mp bound
    cases Report.pure_clean.mp bound
    intro b member
    rcases List.mem_append.mp member with now | later
    · cases Option.mem_toList.mp now
      exact ⟨a, List.mem_cons_self .., here⟩
    · obtain ⟨x, there, binds⟩ := ih others b later
      exact ⟨x, List.mem_cons_of_mem _ there, binds⟩

theorem bind_wellFormed {spec : Spec} {idl : Idl} (bound : bind spec = .ok idl) :
    ∀ s ∈ idl.structs, s.WellFormed := by
  have ran := Report.toExcept_exact.mp bound
  obtain ⟨_, _, ran⟩ := Report.bind_clean.mp ran
  obtain ⟨_, _, ran⟩ := Report.bind_clean.mp ran
  obtain ⟨structs, plain, ran⟩ := Report.bind_clean.mp ran
  obtain ⟨commands, called, ran⟩ := Report.bind_clean.mp ran
  obtain ⟨_, _, ran⟩ := Report.bind_clean.mp ran
  obtain ⟨_, _, ran⟩ := Report.bind_clean.mp ran
  cases Report.pure_clean.mp ran
  intro s member
  rcases List.mem_append.mp member with own | command
  · obtain ⟨_, _, binds⟩ := bindEach_clean plain s own
    exact bindStruct_plain binds
  · obtain ⟨_, _, binds⟩ := bindEach_clean called s command
    exact bindCommand_wellFormed binds

section

def page : StructDef :=
  { location := lineOf "notes.idl" 1, name := "page"
    fields := [
      { fieldAt (lineOf "notes.idl" 2) "size" "int" with default := some { code := some "10" } },
      { fieldAt (lineOf "notes.idl" 3) "token" "string" with optional := true }] }

-- A command with everything that the rules speak of: an element of its own, inlined fields, a
-- document sequence with an order, and alternatives.
def insertNotes : CommandDef :=
  { base := {
      location := lineOf "notes.idl" 4, name := "insertNotes"
      chainedStructs := [{ location := lineOf "notes.idl" 5, name := "page", rustName := "page" }]
      fields := [
        { location := lineOf "notes.idl" 6, name := "notes", type := some (.array "object"),
          docSequence := true, comparisonOrder := 1 },
        { location := lineOf "notes.idl" 7, name := "mark",
          type := some (.variant [.single "int", .single "string", .single "page"]) }] }
    commandName := "insertNotes", namespaceRule := .typed, commandType := some (.single "string") }

def notes : Spec :=
  { symbols := { structs := [page], commands := [insertNotes] } }

theorem bind_wellFormed_notes :
    ∃ idl, bind notes = .ok idl ∧ idl.structs.map (·.name) = ["page", "insertNotes"] ∧
      ∀ s ∈ idl.structs, s.WellFormed := by
  have bound : bind notes = .ok (bindAll notes).value :=
    Report.toExcept_of_clean (by decide +kernel)
  exact ⟨_, bound, by decide +kernel, bind_wellFormed bound⟩

end

end WireSchema.Bound
