import WireSchema.Proofs.Bound.Layout
import WireSchema.Proofs.Text.Identifier

namespace WireSchema.Emit

open Text (isIdentifier)

-- The keywords of the 2021 edition, those that it keeps for later included.
def keywords : List String :=
  ["as", "async", "await", "break", "const", "continue", "crate", "dyn", "else", "enum",
    "extern", "false", "fn", "for", "if", "impl", "in", "let", "loop", "match", "mod", "move",
    "mut", "pub", "ref", "return", "self", "Self", "static", "struct", "super", "trait", "true",
    "type", "unsafe", "use", "where", "while", "abstract", "become", "box", "do", "final", "macro",
    "override", "priv", "try", "typeof", "unsized", "virtual", "yield"]

-- The keywords that members are not set apart from.
def unescaped : List String :=
  ["abstract", "become", "box", "do", "final", "macro", "override", "priv", "try", "typeof",
    "unsized", "virtual", "yield"]

theorem unreserved_keyword {name : String} : unreserved name ∈ keywords ↔ name ∈ unescaped := by
  unfold unreserved
  split
  · rename_i taken
    have ends : ∀ word ∈ keywords, word.toList.getLast? ≠ some '_' := by decide +kernel
    have apart : ∀ word ∈ unescaped, word ∉ reserved := by decide +kernel
    refine iff_of_false (fun keyword => ends _ keyword ?_) fun word => ?_
    · rw [String.toList_append]
      exact List.getLast?_concat
    · exact apart name word (by simpa using taken)
  · rename_i free
    have all : ∀ word ∈ keywords, word ∈ reserved ∨ word ∈ unescaped := by decide +kernel
    have some : ∀ word ∈ unescaped, word ∈ keywords := by decide +kernel
    exact ⟨fun keyword => (all name keyword).resolve_left (by simpa using free), some name⟩

theorem unreserved_identifier {name : String} :
    isIdentifier (unreserved name) = isIdentifier name := by
  unfold unreserved
  split
  · rename_i taken
    apply Text.isIdentifier_underscore
    rintro rfl
    exact absurd taken (by decide)
  · rfl

end WireSchema.Emit

namespace WireSchema.Bound

open Schema (Chained CommandDef EnumDef FieldDef Report Spec StructDef TypeRef fieldAt lineOf)
open Text (BeginsWithLetter Steady isAlphanumeric isIdentifier isLetter)

-- Names that begin with a digit, or hold no letter, are bound as they are. Members are set apart
-- from most keywords, but not from all.

inductive NameRule where
  | type
  | enumerator
  | member

namespace NameRule

def apply : NameRule → String → String
  | type => Emit.typeName
  | enumerator => Emit.enumeratorName
  | member => memberNameOf

def bare (source : String) : String :=
  match source.toList with
  | 'k' :: second :: rest => if second.isUpper then String.ofList (second :: rest) else source
  | _ => source

def pieces : NameRule → String → List (List Char)
  | type, source => (Casing.words source).map Casing.capitalized
  | enumerator, source => (Casing.words (bare source)).map Casing.capitalized
  | member, source => (Casing.words source).map Casing.lower

variable {rule : NameRule} {source : String}

theorem apply_member : member.apply source = Emit.unreserved (Emit.memberName source) := by
  simp only [apply, memberNameOf]

theorem enumeratorName_bare : Emit.enumeratorName source = Emit.typeName (bare source) := by
  fun_cases bare source with
  | case1 second rest text capital => simp [Emit.enumeratorName, text, capital]
  | case2 second rest text small => simp [Emit.enumeratorName, text, small]
  | case3 other =>
    unfold Emit.enumeratorName
    split
    · rename_i second rest text
      exact absurd text (other second rest)
    · rfl

theorem identifier_exact :
    isIdentifier (rule.apply source) = true ↔ Casing.Fitting (rule.pieces source) := by
  cases rule with
  | type => exact Casing.isIdentifier_upperCamel
  | enumerator =>
    show isIdentifier (Emit.enumeratorName source) = true ↔ _
    rw [enumeratorName_bare]
    exact Casing.isIdentifier_upperCamel
  | member =>
    rw [apply_member, Emit.unreserved_identifier]
    exact Casing.isIdentifier_snake

theorem capital_letter {c : Char} (capital : c.isUpper = true) :
    isAlphanumeric c = true ∧ isLetter c = true := by
  have ascii : c.toNat < 128 :=
    Nat.lt_of_le_of_lt (UInt32.le_iff_toNat_le.mp (of_decide_eq_true capital).2) (by decide)
  have facts := Text.ascii_chars (p := fun c => !c.isUpper || (isAlphanumeric c && isLetter c))
    (by decide +kernel) ascii
  simpa [capital] using facts

-- The letter that is dropped stands before another letter.
theorem bare_steady (steady : Steady source) :
    Steady (bare source) ∧ (BeginsWithLetter (bare source) ↔ BeginsWithLetter source) := by
  fun_cases bare source with
  | case1 second rest text capital =>
    obtain ⟨alphanumeric, letter⟩ := capital_letter capital
    constructor
    · intro c there letter
      rw [String.toList_ofList] at there
      exact steady c (by rw [text]; exact List.mem_cons_of_mem _ there) letter
    · unfold BeginsWithLetter
      rw [String.toList_ofList, text, List.find?_cons_of_pos alphanumeric,
        List.find?_cons_of_pos (by decide)]
      exact iff_of_true ⟨_, rfl, letter⟩ ⟨_, rfl, by decide +kernel⟩
  | case2 => exact ⟨steady, Iff.rfl⟩
  | case3 => exact ⟨steady, Iff.rfl⟩

theorem identifier_steady (steady : Steady source) :
    isIdentifier (rule.apply source) = true ↔ BeginsWithLetter source := by
  rw [identifier_exact]
  cases rule with
  | type => exact Casing.fitting_steady Casing.keeps_capitalized steady
  | enumerator =>
    obtain ⟨steady, same⟩ := bare_steady steady
    exact (Casing.fitting_steady Casing.keeps_capitalized steady).trans same
  | member => exact Casing.fitting_steady Casing.keeps_lower steady

end NameRule

def Struct.allFields (s : Struct) : List Field :=
  (s.command.bind (·.commandField)).toList ++ s.fields

inductive Idl.Names (idl : Idl) : NameRule → String → Prop where
  | enum {e : Enum} (member : e ∈ idl.enums) : Idl.Names idl .type e.rustName
  | value {e : Enum} {v : EnumValue} (member : e ∈ idl.enums) (value : v ∈ e.values) :
      Idl.Names idl .enumerator v.rustName
  | struct {s : Struct} (member : s ∈ idl.structs) : Idl.Names idl .type s.rustName
  | field {s : Struct} {f : Field} (member : s ∈ idl.structs) (field : f ∈ s.allFields) :
      Idl.Names idl .member f.rustName
  | alternative {s : Struct} {f : Field} {v : Variant} {a : Alternative}
      (member : s ∈ idl.structs) (field : f ∈ s.allFields) (kind : f.kind = .variant v)
      (alternative : a ∈ v.alternatives) : Idl.Names idl .type a.rustName

def bases (spec : Spec) : List StructDef :=
  spec.symbols.structs ++ spec.symbols.commands.map (·.base)

inductive Spells (spec : Spec) : NameRule → String → Prop where
  | enum {e : EnumDef} (member : e ∈ spec.symbols.enums) :
      Spells spec .type (e.rustName.getD e.name)
  | value {e : EnumDef} {v : Schema.EnumValue} (member : e ∈ spec.symbols.enums)
      (value : v ∈ e.values) : Spells spec .enumerator v.name
  | struct {s : StructDef} (member : s ∈ bases spec) : Spells spec .type (s.rustName.getD s.name)
  | field {s : StructDef} {f : FieldDef} (member : s ∈ bases spec) (field : f ∈ s.fields) :
      Spells spec .member (f.rustName.getD f.name)
  | chained {s : StructDef} {c : Chained} (member : s ∈ bases spec)
      (chained : c ∈ s.chainedTypes ++ s.chainedStructs) : Spells spec .member c.rustName
  | alternative {s : StructDef} {f : FieldDef} {written : List TypeRef} {name : String}
      (member : s ∈ bases spec) (field : f ∈ s.fields) (type : f.type = some (.variant written))
      (alternative : .single name ∈ written) : Spells spec .type name
  | element {c : CommandDef} {written : List TypeRef} {name : String}
      (member : c ∈ spec.symbols.commands) (type : c.commandType = some (.variant written))
      (alternative : .single name ∈ written) : Spells spec .type name
  | fixed {name : String} (known : name ∈ ["command_parameter", "db_name"]) :
      Spells spec .member name

def Made (spec : Spec) (rule : NameRule) (name : String) : Prop :=
  ∃ source, Spells spec rule source ∧ name = rule.apply source

structure FieldMade (spec : Spec) (b : Field) : Prop where
  member : Made spec .member b.rustName
  alternatives : ∀ v, b.kind = .variant v → ∀ a ∈ v.alternatives, Made spec .type a.rustName

section

variable {spec : Spec} {s : StructDef} {b : Field}

theorem fixed_made {name : String} (known : name ∈ ["command_parameter", "db_name"]) :
    Made spec .member name := by
  have unchanged : ∀ name ∈ ["command_parameter", "db_name"], name = memberNameOf name := by
    decide +kernel
  refine ⟨name, .fixed known, ?_⟩
  simp only [NameRule.apply]
  exact unchanged name known

theorem kindOf_alternatives {variantName : String} {type : Option TypeRef} {v : Variant}
    {array : Bool} (kind : KindOf spec.symbols variantName type (.variant v) array)
    {a : Alternative} (alternative : a ∈ v.alternatives) :
    ∃ written name, type = some (.variant written) ∧ .single name ∈ written ∧
      a.rustName = Emit.typeName name := by
  generalize whole : FieldKind.variant v = kind' at kind
  cases kind with
  | untyped known => cases whole
  | @single name r known => cases r <;> cases whole
  | @array name r known => cases r <;> cases whole
  | variant each =>
    cases whole
    obtain ⟨t, there, name, r, rfl, known, stands⟩ := forall₂_left each.flip alternative
    refine ⟨_, name, rfl, there, ?_⟩
    rw [stands.named, Schema.SymbolTable.resolve?_name known]

theorem struct?_base {name : String} {target : StructDef}
    (known : spec.symbols.struct? name = some target) : target ∈ bases spec :=
  List.mem_append_left _ (List.mem_of_find?_eq_some known)

theorem fieldOf_made {owner : String} {f : FieldDef} (member : s ∈ bases spec)
    (field : f ∈ s.fields) (of : FieldOf spec.symbols owner f b) : FieldMade spec b := by
  obtain ⟨kind, array, default, declared, _, rfl⟩ := of
  refine ⟨⟨f.rustName.getD f.name, .field member field, ?_⟩, ?_⟩
  · simp only [filledIn, NameRule.apply]
  · intro v same a alternative
    simp only [filledIn] at same
    subst same
    obtain ⟨written, name, type, there, named⟩ := kindOf_alternatives declared alternative
    exact ⟨name, .alternative member field type there, named⟩

theorem layout_made {owner : String} {isCommand : Bool} {origin : Origin}
    (member : s ∈ bases spec) (there : origin ∈ layout spec.symbols s isCommand)
    (comes : ComesFrom spec.symbols owner origin b) : FieldMade spec b := by
  unfold layout chainLayout at there
  cases origin with
  | chainedType c =>
    obtain ⟨t, _, rfl⟩ := comes
    have chained : c ∈ s.chainedTypes := by
      cases isCommand <;> simpa using there
    refine ⟨⟨c.rustName, .chained member (List.mem_append_left _ chained), ?_⟩, ?_⟩
    · simp only [chainedMember, NameRule.apply]
    · simp [chainedMember]
  | chainedStruct c =>
    obtain ⟨target, _, rfl⟩ := comes
    have chained : c ∈ s.chainedStructs := by
      cases isCommand <;> simpa using there
    refine ⟨⟨c.rustName, .chained member (List.mem_append_right _ chained), ?_⟩, ?_⟩
    · simp only [chainedMember, NameRule.apply]
    · simp [chainedMember]
  | inlined c target f =>
    obtain ⟨inner, of, rfl⟩ := comes
    have inlined : c ∈ s.chainedStructs ∧ s.inlineChained = true ∧
        spec.symbols.struct? c.name = some target ∧ f ∈ target.fields := by
      cases isCommand <;> simpa using there
    obtain ⟨_, _, known, field⟩ := inlined
    obtain ⟨member, alternatives⟩ := fieldOf_made (struct?_base known) field of
    exact ⟨member, alternatives⟩
  | own f =>
    have field : f ∈ s.fields := by
      cases isCommand <;> simpa using there
    exact fieldOf_made member field comes
  | database =>
    obtain ⟨t, _, rfl⟩ := Option.map_eq_some_iff.mp comes
    exact ⟨fixed_made (by simp), by simp⟩

theorem structWith_made {owner : String} {isCommand : Bool} {fields : List Field}
    (member : s ∈ bases spec)
    (each : List.Forall₂ (ComesFrom spec.symbols owner) (layout spec.symbols s isCommand) fields) :
    Made spec .type (structRustName s) ∧ ∀ f ∈ fields, FieldMade spec f := by
  refine ⟨⟨s.rustName.getD s.name, .struct member, by simp only [structRustName, NameRule.apply]⟩,
    fun f field => ?_⟩
  obtain ⟨origin, there, comes⟩ := forall₂_left each.flip field
  exact layout_made member there comes

theorem elementOf_made {c : CommandDef} (member : c ∈ spec.symbols.commands)
    (of : ElementOf spec.symbols c (some b)) : FieldMade spec b := by
  obtain ⟨type, kind, array, typed, declared, rfl⟩ := of
  refine ⟨fixed_made (by simp), ?_⟩
  intro v same a alternative
  simp only at same
  subst same
  obtain ⟨written, name, variant, there, named⟩ := kindOf_alternatives declared alternative
  exact ⟨name, .element member (typed.trans variant) there, named⟩

theorem struct_made {idl : Idl} (bound : bind spec = .ok idl) {d : Struct}
    (member : d ∈ idl.structs) :
    Made spec .type d.rustName ∧ ∀ f ∈ d.allFields, FieldMade spec f := by
  obtain ⟨_, _, _, structs, commands, whole, eachStruct, eachCommand⟩ := bind_complete bound
  rw [whole] at member
  rcases List.mem_append.mp member with plain | command
  · obtain ⟨s, there, fields, each, rfl⟩ := forall₂_left eachStruct.flip plain
    have base : s ∈ bases spec := List.mem_append_left _ (List.mem_filter.mp there).1
    exact structWith_made base each
  · obtain ⟨c, there, fields, element, each, of, rfl⟩ := forall₂_left eachCommand.flip command
    have declared := (List.mem_filter.mp there).1
    have base : c.base ∈ bases spec := List.mem_append_right _ (List.mem_map_of_mem declared)
    obtain ⟨named, made⟩ := structWith_made base each
    refine ⟨named, fun f field => ?_⟩
    rcases List.mem_append.mp field with own | field
    · cases Option.mem_toList.mp own
      exact elementOf_made declared of
    · exact made f field

theorem enum_made {idl : Idl} (bound : bind spec = .ok idl) {d : Enum} (member : d ∈ idl.enums) :
    Made spec .type d.rustName ∧ ∀ v ∈ d.values, Made spec .enumerator v.rustName := by
  obtain ⟨enums, _⟩ := bind_complete bound
  obtain ⟨e, there, rfl⟩ := forall₂_left enums.flip member
  have declared := (List.mem_filter.mp there).1
  refine ⟨⟨e.rustName.getD e.name, .enum declared, by simp only [enumRustName, NameRule.apply]⟩, ?_⟩
  intro v value
  obtain ⟨w, among, rfl⟩ := List.mem_map.mp value
  exact ⟨w.name, .value declared among, by simp only [NameRule.apply]⟩

theorem names_made {idl : Idl} (bound : bind spec = .ok idl) {rule : NameRule} {name : String}
    (named : idl.Names rule name) : Made spec rule name := by
  cases named with
  | enum member => exact (enum_made bound member).1
  | value member value => exact (enum_made bound member).2 _ value
  | struct member => exact (struct_made bound member).1
  | field member field => exact ((struct_made bound member).2 _ field).member
  | alternative member field kind alternative =>
    exact ((struct_made bound member).2 _ field).alternatives _ kind _ alternative

end

-- A name is an identifier if and only if the words that it is made from make one. Where case keeps
-- letters letters and digits digits, as in ASCII, they do if and only if what is spelled begins with
-- a letter, separators apart. A member is a keyword if and only if it is one that members are not
-- set apart from.
theorem names_exact {spec : Spec} {idl : Idl} (bound : bind spec = .ok idl) {rule : NameRule}
    {name : String} (named : idl.Names rule name) :
    ∃ source, Spells spec rule source ∧ name = rule.apply source ∧
      (isIdentifier name = true ↔ Casing.Fitting (rule.pieces source)) ∧
      (Text.Ascii source → Steady source) ∧
      (Steady source → (isIdentifier name = true ↔ BeginsWithLetter source)) ∧
      (rule = .member → (name ∈ Emit.keywords ↔ Emit.memberName source ∈ Emit.unescaped)) := by
  obtain ⟨source, spelled, rfl⟩ := names_made bound named
  refine ⟨source, spelled, rfl, NameRule.identifier_exact, Text.steady_of_ascii,
    NameRule.identifier_steady, ?_⟩
  rintro rfl
  rw [NameRule.apply_member]
  exact Emit.unreserved_keyword

section

def labels (name : String) : Spec :=
  { symbols := { structs := [
      { location := lineOf "label.idl" 1, name := "label"
        fields := [fieldAt (lineOf "label.idl" 2) name "string"] }] } }

def boundLabel (name member : String) : Struct :=
  boundStruct "label" "Label" [
    { name, rustName := member
      kind := .basic (basicTypeOf (Schema.builtinType "string" "String" "string")) }]

theorem labels_names (name member : String) (clean : (bindAll (labels name)).diagnostics = [])
    (bound : (bindAll (labels name)).value.structs = [boundLabel name member]) :
    ∃ idl, bind (labels name) = .ok idl ∧ idl.Names .member member := by
  refine ⟨_, Report.toExcept_of_clean clean, ?_⟩
  have label : boundLabel name member ∈ (bindAll (labels name)).value.structs := by
    rw [bound]
    exact List.mem_singleton_self _
  exact .field label (List.mem_singleton_self _)

theorem names_exact_labels :
    ∃ idl, bind (labels "type") = .ok idl ∧ idl.Names .member "type_" ∧
      isIdentifier "type_" = true ∧ "type_" ∉ Emit.keywords ∧
      ∃ source, Spells (labels "type") .member source ∧ "type_" = NameRule.member.apply source ∧
        Casing.Fitting (NameRule.member.pieces source) ∧
        Emit.memberName source ∉ Emit.unescaped := by
  obtain ⟨idl, bound, named⟩ := labels_names "type" "type_"
    (by decide +kernel) (by decide +kernel)
  obtain ⟨source, spelled, made, identifier, _, _, keyword⟩ := names_exact bound named
  have fits : isIdentifier "type_" = true := by decide +kernel
  have free : "type_" ∉ Emit.keywords := by decide +kernel
  exact ⟨idl, bound, named, fits, free, source, spelled, made, identifier.mp fits,
    fun word => free ((keyword rfl).mpr word)⟩

-- A keyword, a digit and a name without a letter are bound as members.
theorem misfits_bound :
    (∃ idl, bind (labels "try") = .ok idl ∧ idl.Names .member "try" ∧ "try" ∈ Emit.keywords) ∧
      (∃ idl, bind (labels "1st") = .ok idl ∧ idl.Names .member "1st" ∧
        isIdentifier "1st" = false) ∧
      ∃ idl, bind (labels "-") = .ok idl ∧ idl.Names .member "" ∧ isIdentifier "" = false := by
  refine ⟨?_, ?_, ?_⟩
  · obtain ⟨idl, bound, named⟩ := labels_names "try" "try"
      (by decide +kernel) (by decide +kernel)
    exact ⟨idl, bound, named, by decide +kernel⟩
  · obtain ⟨idl, bound, named⟩ := labels_names "1st" "1st"
      (by decide +kernel) (by decide +kernel)
    exact ⟨idl, bound, named, by decide +kernel⟩
  · obtain ⟨idl, bound, named⟩ := labels_names "-" ""
      (by decide +kernel) (by decide +kernel)
    exact ⟨idl, bound, named, by decide +kernel⟩

end

end WireSchema.Bound
