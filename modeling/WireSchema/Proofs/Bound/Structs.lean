import WireSchema.Proofs.Bound.WellFormed

namespace WireSchema.Bound

open Schema (Chained CommandDef FieldDef Report Spec StructDef SymbolTable TypeDef)

-- What holds of fields made in each of the ways below holds of all fields of a bound schema.

inductive FieldBound (symbols : SymbolTable) : Field → Prop where
  | chainedType {c : Chained} {t : TypeDef} (known : symbols.resolve? c.name = some (.type t))
      (chain : t.wireTypes.contains Schema.WireType.chain = true) :
      FieldBound symbols (chainedMember c (.basic (basicTypeOf t)))
  | chainedStruct {c : Chained} {target : StructDef} :
      FieldBound symbols (chainedMember c (.struct (structRefOf target)))
  | inlined {owner member : String} {f : FieldDef} {b : Field}
      (bound : bindField symbols owner f = pure (some b)) :
      FieldBound symbols { b with owner := some member }
  | own {owner : String} {f : FieldDef} {b : Field}
      (bound : bindField symbols owner f = pure (some b)) : FieldBound symbols b
  | database {b : Field} (known : dbNameField? symbols = some b) : FieldBound symbols b

inductive StructBound (symbols : SymbolTable) : Struct → Prop where
  | plain {d : StructDef} {s : Struct} (bound : bindStruct symbols d false = pure (some s)) :
      StructBound symbols s
  | command {d : CommandDef} {s : Struct} (bound : bindCommand symbols d = pure (some s)) :
      StructBound symbols s

section

variable {symbols : SymbolTable} {s : StructDef} {c : Chained} {placed : List Placed}

theorem bindChainedType_bound (bound : bindChainedType symbols s c = pure placed) :
    ∀ p ∈ placed, FieldBound symbols p.1 := by
  unfold bindChainedType at bound
  split at bound
  · exact absurd bound Report.complain_bind
  · rename_i t known
    split at bound
    · exact absurd bound Report.complain_bind
    · rename_i chain
      simp only at bound
      split at bound
      · exact absurd bound Report.complain_bind
      · cases Report.pure_clean.mp bound
        intro p member
        cases List.mem_singleton.mp member
        exact .chainedType known (by simpa using chain)
  · exact absurd bound Report.complain_bind

theorem inlineFields_bound {target : StructDef} {member : String} {fields : List FieldDef}
    (bound : inlineFields symbols c target member fields = pure placed) :
    ∀ p ∈ placed, FieldBound symbols p.1 := by
  induction fields generalizing placed with
  | nil =>
    cases Report.pure_clean.mp bound
    simp
  | cons f rest ih =>
    obtain ⟨first, inlined, bound⟩ := Report.bind_clean.mp bound
    obtain ⟨more, others, bound⟩ := Report.bind_clean.mp bound
    cases Report.pure_clean.mp bound
    intro p there
    rcases List.mem_append.mp there with here | later
    · obtain ⟨found, declared, inlined⟩ := Report.bind_clean.mp inlined
      cases found with
      | none =>
        cases Report.pure_clean.mp inlined
        cases here
      | some b =>
        simp only at inlined
        split at inlined
        · exact absurd inlined Report.complain_bind
        · cases Report.pure_clean.mp inlined
          cases List.mem_singleton.mp here
          exact .inlined declared
    · exact ih others p later

theorem bindChainedStruct_bound (bound : bindChainedStruct symbols s c = pure placed) :
    ∀ p ∈ placed, FieldBound symbols p.1 := by
  unfold bindChainedStruct at bound
  split at bound
  · exact absurd bound Report.complain_bind
  · split at bound
    · exact absurd bound Report.complain_bind
    · simp only at bound
      split at bound
      · split at bound
        · exact absurd bound Report.complain_bind
        · cases Report.pure_clean.mp bound
          intro p there
          cases List.mem_singleton.mp there
          exact .chainedStruct
      · split at bound
        · exact absurd bound Report.complain_bind
        · obtain ⟨inlined, ran, bound⟩ := Report.bind_clean.mp bound
          cases Report.pure_clean.mp bound
          intro p there
          rcases List.mem_cons.mp there with rfl | later
          · exact .chainedStruct
          · exact inlineFields_bound ran p later

theorem bindOwnFields_bound {rustName : String} {fields : List FieldDef}
    (bound : bindOwnFields symbols rustName fields = pure placed) :
    ∀ p ∈ placed, FieldBound symbols p.1 := by
  induction fields generalizing placed with
  | nil =>
    cases Report.pure_clean.mp bound
    simp
  | cons f rest ih =>
    obtain ⟨found, declared, bound⟩ := Report.bind_clean.mp bound
    obtain ⟨more, others, bound⟩ := Report.bind_clean.mp bound
    cases Report.pure_clean.mp bound
    intro p there
    rcases List.mem_append.mp there with here | later
    · cases found with
      | none => cases here
      | some b =>
        cases List.mem_singleton.mp here
        exact .own declared
    · exact ih others p later

theorem bindFields_bound {isCommand : Bool}
    (bound : bindFields symbols s isCommand = pure placed) :
    ∀ p ∈ placed, FieldBound symbols p.1 := by
  obtain ⟨types, chainedTypes, bound⟩ := Report.bind_clean.mp bound
  obtain ⟨structs, chainedStructs, bound⟩ := Report.bind_clean.mp bound
  obtain ⟨own, fields, bound⟩ := Report.bind_clean.mp bound
  cases Report.pure_clean.mp bound
  intro p there
  simp only [List.mem_append, List.mem_flatten] at there
  rcases there with ((⟨part, within, there⟩ | ⟨part, within, there⟩) | there) | there
  · obtain ⟨c, _, bound⟩ := Report.mapM_clean chainedTypes part within
    exact bindChainedType_bound bound p there
  · obtain ⟨c, _, bound⟩ := Report.mapM_clean chainedStructs part within
    exact bindChainedStruct_bound bound p there
  · exact bindOwnFields_bound fields p there
  · split at there
    · obtain ⟨b, known, rfl⟩ := List.mem_map.mp there
      exact .database (Option.mem_toList.mp known)
    · cases there

theorem bindStruct_bound {isCommand : Bool} {b : Struct}
    (bound : bindStruct symbols s isCommand = pure (some b)) :
    b.command = none ∧ ∀ f ∈ b.fields, FieldBound symbols f := by
  obtain ⟨_, same, bound⟩ := Report.ifClean_exact.mp bound
  cases same
  obtain ⟨placed, fields, bound⟩ := Report.bind_clean.mp bound
  obtain ⟨_, _, bound⟩ := Report.bind_clean.mp bound
  cases Report.pure_clean.mp bound
  refine ⟨rfl, ?_⟩
  intro f member
  obtain ⟨p, there, rfl⟩ := List.mem_map.mp member
  exact bindFields_bound fields p there

-- The element of a command is like a field, but it is always there and never optional.
theorem bindCommandField_bound {d : CommandDef} {f : Field}
    (bound : bindCommandField symbols d = pure (some f)) :
    ∃ location name type variantName kind array,
      bindFieldKind symbols location name type variantName = pure (some (kind, array)) ∧
        f = { name, rustName := "command_parameter", kind, array } := by
  unfold bindCommandField at bound
  simp only at bound
  split at bound
  · exact absurd bound Report.reject_clean
  · obtain ⟨found, kinds, bound⟩ := Report.bind_clean.mp bound
    obtain ⟨⟨kind, array⟩, rfl, rfl⟩ := Option.map_eq_some_iff.mp (Report.pure_clean.mp bound)
    exact ⟨_, _, _, _, kind, array, kinds, rfl⟩
  · exact absurd bound Report.reject_clean
  · cases Report.pure_clean.mp bound

theorem bindCommand_bound {d : CommandDef} {b : Struct}
    (bound : bindCommand symbols d = pure (some b)) :
    (∀ f ∈ b.fields, FieldBound symbols f) ∧
      ∀ c f, b.command = some c → c.commandField = some f →
        bindCommandField symbols d = pure (some f) := by
  obtain ⟨_, clean, bound⟩ := Report.bind_clean.mp bound
  obtain ⟨named, rfl, ran⟩ := Report.ifClean_exact.mp clean
  obtain ⟨base, struct, ran⟩ := Report.bind_clean.mp ran
  obtain ⟨element, elements, ran⟩ := Report.bind_clean.mp ran
  obtain ⟨_, _, ran⟩ := Report.bind_clean.mp ran
  cases Report.pure_clean.mp ran
  obtain ⟨s, rfl, rfl⟩ := Option.map_eq_some_iff.mp (Report.pure_clean.mp bound)
  refine ⟨(bindStruct_bound struct).2, ?_⟩
  rintro c f same element
  cases same
  cases element
  exact elements

end

section

variable {symbols : SymbolTable} {s : Struct}

theorem StructBound.wellFormed (bound : StructBound symbols s) : s.WellFormed := by
  cases bound with
  | plain bound => exact bindStruct_plain bound
  | command bound => exact bindCommand_wellFormed bound

theorem StructBound.field (bound : StructBound symbols s) {f : Field} (member : f ∈ s.fields) :
    FieldBound symbols f := by
  cases bound with
  | plain bound => exact (bindStruct_bound bound).2 f member
  | command bound => exact (bindCommand_bound bound).1 f member

theorem StructBound.element (bound : StructBound symbols s) {c : Command} {f : Field}
    (command : s.command = some c) (element : c.commandField = some f) :
    ∃ location name type variantName kind array,
      bindFieldKind symbols location name type variantName = pure (some (kind, array)) ∧
        f = { name, rustName := "command_parameter", kind, array } := by
  cases bound with
  | plain bound =>
    rw [(bindStruct_bound bound).1] at command
    cases command
  | command bound => exact bindCommandField_bound ((bindCommand_bound bound).2 c f command element)

end

theorem bind_parts {spec : Spec} {idl : Idl} (bound : bind spec = .ok idl) :
    (∀ t ∈ spec.symbols.types, t.imported = false → checkType t = pure ()) ∧
      (∀ e ∈ idl.enums, ∃ d, bindEnum d = pure (some e)) ∧
      ∀ s ∈ idl.structs, StructBound spec.symbols s := by
  have ran := Report.toExcept_exact.mp bound
  obtain ⟨_, types, ran⟩ := Report.bind_clean.mp ran
  obtain ⟨enums, eachEnum, ran⟩ := Report.bind_clean.mp ran
  obtain ⟨structs, eachStruct, ran⟩ := Report.bind_clean.mp ran
  obtain ⟨commands, eachCommand, ran⟩ := Report.bind_clean.mp ran
  obtain ⟨_, _, ran⟩ := Report.bind_clean.mp ran
  obtain ⟨_, _, ran⟩ := Report.bind_clean.mp ran
  cases Report.pure_clean.mp ran
  refine ⟨?_, ?_, ?_⟩
  · intro t member own
    apply Report.forM_clean.mp types
    exact List.mem_filter.mpr ⟨member, by simp [own]⟩
  · intro e member
    obtain ⟨d, _, binds⟩ := bindEach_clean eachEnum e member
    exact ⟨d, binds⟩
  · intro s member
    rcases List.mem_append.mp member with plain | command
    · obtain ⟨_, _, binds⟩ := bindEach_clean eachStruct s plain
      exact .plain binds
    · obtain ⟨_, _, binds⟩ := bindEach_clean eachCommand s command
      exact .command binds

end WireSchema.Bound
