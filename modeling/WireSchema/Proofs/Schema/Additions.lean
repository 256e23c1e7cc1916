import Mathlib.Data.List.Induction
import Mathlib.Tactic.Tauto
import WireSchema.Proofs.Schema.Table

namespace WireSchema.Schema

-- Single definitions and whole imported tables come down to the same thing, definitions offered one
-- after the other.

inductive Definition where
  | command (c : CommandDef)
  | enum (e : EnumDef)
  | struct (s : StructDef)
  | type (d : TypeDef)

namespace Definition

def name : Definition → String
  | command c => c.base.name
  | enum e => e.name
  | struct s => s.name
  | type d => d.name

def location : Definition → Location
  | command c => c.base.location
  | enum e => e.location
  | struct s => s.location
  | type d => d.location

def kind : Definition → String
  | command _ => "command"
  | enum _ => "enum"
  | struct _ => "struct"
  | type _ => "type"

def target? : Definition → Option Resolved
  | command _ => none
  | enum e => some (.enum e)
  | struct s => some (.struct s)
  | type d => some (.type d)

def alone : Definition → SymbolTable
  | command c => { commands := [c] }
  | enum e => { enums := [e] }
  | struct s => { structs := [s] }
  | type d => { types := [d] }

def duplicate (d : Definition) (previous : String) : Diagnostic :=
  ⟨.duplicateSymbol d.kind d.name previous, d.location⟩

end Definition

namespace SymbolTable

def definitions (t : SymbolTable) : List Definition :=
  t.commands.map .command ++ t.enums.map .enum ++ t.structs.map .struct ++ t.types.map .type

inductive Holds (t : SymbolTable) (name : String) : String → Prop where
  | builtin (member : name ∈ builtinNames) : Holds t name "builtin type"
  | defined {d : Definition} (member : d ∈ t.definitions) (named : d.name = name) :
      Holds t name d.kind

def add (t : SymbolTable) : Definition → Report SymbolTable
  | .command c => t.addCommand c
  | .enum e => t.addEnum e
  | .struct s => t.addStruct s
  | .type d => t.addType d

end SymbolTable

inductive Addition where
  | one (d : Definition)
  | imported (other : SymbolTable)

def Addition.offers : Addition → List Definition
  | one d => [d]
  | imported other => other.asImported.definitions

def SymbolTable.extend (t : SymbolTable) : Addition → Report SymbolTable
  | .one d => t.add d
  | .imported other => t.addImported other

namespace SymbolTable

section

variable {t : SymbolTable} {d : Definition} {name : String}

theorem names_definitions (t : SymbolTable) : t.definitions.map (·.name) = t.names := by
  simp [definitions, names, Definition.name, Function.comp_def]

theorem mem_append_alone {x : Definition} :
    x ∈ (t ++ d.alone).definitions ↔ x ∈ t.definitions ∨ x = d := by
  cases d <;> simp only [definitions, append_parts, Definition.alone, List.map_append,
    List.map_cons, List.map_nil, List.append_nil, List.mem_append, List.mem_singleton] <;> tauto

theorem length_append_alone :
    (t ++ d.alone).definitions.length = t.definitions.length + 1 := by
  cases d <;> simp only [definitions, append_parts, Definition.alone, List.map_append,
    List.map_cons, List.map_nil, List.append_nil, List.length_append, List.length_singleton] <;>
    omega

theorem holds_of_any {α : Type} {items : List α} {key : α → String} {previous : String}
    (wrap : α → Definition) (inside : ∀ a ∈ items, wrap a ∈ t.definitions)
    (same : ∀ a, (wrap a).name = key a ∧ (wrap a).kind = previous)
    (taken : items.any (key · == name) = true) : t.Holds name previous := by
  obtain ⟨a, member, named⟩ := List.any_eq_true.mp taken
  rw [← (same a).2]
  exact .defined (inside a member) ((same a).1.trans (by simpa using named))

theorem kindOf?_holds {previous : String} (found : t.kindOf? name = some previous) :
    t.Holds name previous := by
  unfold kindOf? at found
  split at found
  · rename_i taken
    cases found
    exact .builtin (by simpa [builtinNames] using taken)
  · split at found
    · rename_i taken
      cases found
      exact holds_of_any .command (by simp [definitions]) (fun _ => ⟨rfl, rfl⟩) taken
    · split at found
      · rename_i taken
        cases found
        exact holds_of_any .enum (by simp [definitions]) (fun _ => ⟨rfl, rfl⟩) taken
      · split at found
        · rename_i taken
          cases found
          exact holds_of_any .struct (by simp [definitions]) (fun _ => ⟨rfl, rfl⟩) taken
        · split at found
          · rename_i taken
            cases found
            exact holds_of_any .type (by simp [definitions]) (fun _ => ⟨rfl, rfl⟩) taken
          · cases found

theorem add_insert (t : SymbolTable) (d : Definition) :
    t.add d = t.insert d.location d.name d.kind (t ++ d.alone) := by
  have joined : t ++ d.alone = ⟨t.commands ++ d.alone.commands, t.enums ++ d.alone.enums,
      t.structs ++ d.alone.structs, t.types ++ d.alone.types⟩ := rfl
  rw [joined]
  cases d <;> simp only [Definition.alone, List.append_nil] <;> rfl

theorem add_free (free : d.name ∉ builtinNames ++ t.names) : t.add d = pure (t ++ d.alone) := by
  rw [add_insert]
  unfold insert
  rw [kindOf?_none.mpr free]

theorem add_taken (taken : d.name ∈ builtinNames ++ t.names) :
    ∃ previous, t.Holds d.name previous ∧ t.add d = ⟨t, [d.duplicate previous]⟩ := by
  cases found : t.kindOf? d.name with
  | none => exact absurd taken (kindOf?_none.mp found)
  | some previous =>
    refine ⟨previous, kindOf?_holds found, ?_⟩
    rw [add_insert]
    unfold insert
    rw [found]
    rfl

theorem extend_offers (t : SymbolTable) (a : Addition) : t.extend a = a.offers.foldlM add t := by
  cases a with
  | one d => simp [extend, Addition.offers]
  | imported other =>
    simp only [extend, addImported, Addition.offers, definitions, asImported, List.map_map,
      List.foldlM_append, List.foldlM_map, bind_assoc]
    rfl

theorem foldlM_extend (t : SymbolTable) (additions : List Addition) :
    additions.foldlM extend t = (additions.flatMap Addition.offers).foldlM add t := by
  induction additions generalizing t with
  | nil => rfl
  | cons a rest ih =>
    rw [List.foldlM_cons, List.flatMap_cons, List.foldlM_append, extend_offers]
    exact bind_congr ih

end

structure FirstWins (offered : List Definition) (r : Report SymbolTable) : Prop where
  distinct : r.value.Distinct
  members : ∀ d, d ∈ r.value.definitions ↔
    d.name ∉ builtinNames ∧ offered.find? (·.name == d.name) = some d
  complaints : ∀ c ∈ r.diagnostics, ∃ d ∈ offered, ∃ previous, c = d.duplicate previous
  counted : r.diagnostics.length + r.value.definitions.length = offered.length

section

variable {t : SymbolTable} {r : Report SymbolTable} {offered : List Definition} {d : Definition}

theorem firstWins_empty : FirstWins [] (pure {}) where
  distinct := distinct_empty
  members := by simp [definitions, pure]
  complaints := by simp [pure]
  counted := by simp [definitions, pure]

theorem FirstWins.unoffered (wins : FirstWins offered r)
    (free : d.name ∉ builtinNames ++ r.value.names) :
    offered.find? (·.name == d.name) = none := by
  simp only [List.mem_append, not_or] at free
  cases found : offered.find? (·.name == d.name) with
  | none => rfl
  | some first =>
    have named : first.name = d.name := by simpa using List.find?_some found
    have kept := (wins.members first).mpr ⟨named ▸ free.1, named ▸ found⟩
    rw [← names_definitions] at free
    exact absurd (List.mem_map.mpr ⟨first, kept, named⟩) free.2

theorem FirstWins.add_free (wins : FirstWins offered r)
    (free : d.name ∉ builtinNames ++ r.value.names) :
    FirstWins (offered ++ [d]) ⟨r.value ++ d.alone, r.diagnostics⟩ where
  distinct := by
    have one : d.alone.names = [d.name] := by cases d <;> rfl
    exact (distinct_append_one wins.distinct one).mpr free
  members x := by
    have unoffered := wins.unoffered free
    have outside : d.name ∉ builtinNames := fun member => free (List.mem_append_left _ member)
    rw [mem_append_alone, wins.members, List.find?_append]
    by_cases same : d.name = x.name
    · have here : (d.name == x.name) = true := by simpa using same
      rw [← same, unoffered]
      simp [outside, eq_comm]
    · have apart : x ≠ d := fun equal => same (equal ▸ rfl)
      have other : (d.name == x.name) = false := by simpa using same
      simp [apart, other]
  complaints c member := by
    obtain ⟨x, before, previous, rfl⟩ := wins.complaints c member
    exact ⟨x, List.mem_append_left _ before, previous, rfl⟩
  counted := by
    have counted := wins.counted
    show r.diagnostics.length + (r.value ++ d.alone).definitions.length = _
    rw [List.length_append, List.length_singleton, length_append_alone]
    omega

theorem FirstWins.add_taken {previous : String} (wins : FirstWins offered r)
    (taken : d.name ∈ builtinNames ++ r.value.names) :
    FirstWins (offered ++ [d]) ⟨r.value, r.diagnostics ++ [d.duplicate previous]⟩ where
  distinct := wins.distinct
  members x := by
    rw [wins.members, List.find?_append]
    apply and_congr_right
    intro outside
    by_cases same : d.name = x.name
    · rw [same, ← names_definitions] at taken
      obtain ⟨first, member, named⟩ := List.mem_map.mp
        ((List.mem_append.mp taken).resolve_left outside)
      have found := ((wins.members first).mp member).2
      rw [named] at found
      simp [found]
    · have other : (d.name == x.name) = false := by simpa using same
      simp [other]
  complaints c member := by
    rcases List.mem_append.mp member with before | here
    · obtain ⟨x, offer, kind, rfl⟩ := wins.complaints c before
      exact ⟨x, List.mem_append_left _ offer, kind, rfl⟩
    · exact ⟨d, by simp, previous, List.mem_singleton.mp here⟩
  counted := by
    have counted := wins.counted
    simp only [List.length_append, List.length_singleton]
    omega

theorem FirstWins.step (wins : FirstWins offered r) (d : Definition) :
    FirstWins (offered ++ [d]) (r >>= (add · d)) := by
  by_cases taken : d.name ∈ builtinNames ++ r.value.names
  · obtain ⟨previous, -, same⟩ := SymbolTable.add_taken taken
    simp only [bind, same]
    exact wins.add_taken taken
  · simp only [bind, SymbolTable.add_free taken, pure, List.append_nil]
    exact wins.add_free taken

theorem firstWins_foldlM (offered : List Definition) :
    FirstWins offered (offered.foldlM add {}) := by
  induction offered using List.reverseRecOn with
  | nil => exact firstWins_empty
  | append_singleton offered d ih =>
    rw [List.foldlM_append]
    simpa using ih.step d

theorem firstWins_extend (additions : List Addition) :
    FirstWins (additions.flatMap Addition.offers) (additions.foldlM extend {}) := by
  rw [foldlM_extend]
  exact firstWins_foldlM _

end

def targets (t : SymbolTable) : List Resolved :=
  (builtinTypes ++ t.types).map .type ++ (t.enums.map .enum ++ t.structs.map .struct)

section

variable {t : SymbolTable} {r : Report SymbolTable} {offered : List Definition} {d : Definition}

theorem resolve?_targets (t : SymbolTable) (name : String) :
    t.resolve? name = t.targets.find? (·.name == name) := by
  simp only [targets, resolve?, type?, List.find?_append, List.find?_map]
  rfl

theorem names_targets (t : SymbolTable) :
    (builtinNames ++ t.names).Perm
      (t.commands.map (·.base.name) ++ t.targets.map Resolved.name) := by
  have counted (name : String) : (builtinNames ++ t.names).count name =
      (t.commands.map (·.base.name) ++ t.targets.map Resolved.name).count name := by
    simp only [builtinNames, names, targets, List.map_append, List.map_map, List.count_append]
    show _ = _ + ((builtinTypes.map (·.name)).count name + (t.types.map (·.name)).count name +
      ((t.enums.map (·.name)).count name + (t.structs.map (·.name)).count name))
    omega
  exact List.perm_iff_count.mpr counted

theorem find?_of_mem {α : Type} {key : α → String} {l : List α} {a : α}
    (distinct : (l.map key).Nodup) (member : a ∈ l) : l.find? (key · == key a) = some a := by
  induction l with
  | nil => cases member
  | cons b rest ih =>
    rw [List.map_cons, List.nodup_cons] at distinct
    rcases List.mem_cons.mp member with rfl | later
    · simp
    · have apart : key b ≠ key a := fun same => distinct.1 (same ▸ List.mem_map_of_mem later)
      have other : (key b == key a) = false := by simpa using apart
      rw [List.find?_cons, other]
      exact ih distinct.2 later

theorem mem_targets {target : Resolved} (member : d ∈ t.definitions)
    (leads : d.target? = some target) : target ∈ t.targets ∧ target.name = d.name := by
  cases d with
  | command c => cases leads
  | enum e =>
    cases leads
    exact ⟨by simpa [definitions, targets] using member, rfl⟩
  | struct s =>
    cases leads
    exact ⟨by simpa [definitions, targets] using member, rfl⟩
  | type d =>
    cases leads
    refine ⟨?_, rfl⟩
    have own : d ∈ t.types := by simpa [definitions] using member
    simp [targets, own]

theorem Distinct.resolve? (distinct : t.Distinct) (member : d ∈ t.definitions) :
    t.resolve? d.name = d.target? := by
  have names := (names_targets t).nodup_iff.mp distinct
  rw [resolve?_targets]
  cases leads : d.target? with
  | some target =>
    obtain ⟨kept, same⟩ := mem_targets member leads
    rw [← same]
    exact find?_of_mem names.of_append_right kept
  | none =>
    cases d with
    | command c =>
      have own : c ∈ t.commands := by simpa [definitions] using member
      rw [List.find?_eq_none]
      intro target kept same
      have clash : c.base.name ∈ t.targets.map Resolved.name :=
        List.mem_map.mpr ⟨target, kept, by simpa [Definition.name] using same⟩
      exact List.disjoint_of_nodup_append names (List.mem_map_of_mem own) clash
    | enum e => cases leads
    | struct s => cases leads
    | type d => cases leads

theorem FirstWins.mono {later : List Definition} {s : Report SymbolTable}
    (wins : FirstWins offered r) (more : FirstWins (offered ++ later) s)
    (member : d ∈ r.value.definitions) : d ∈ s.value.definitions := by
  obtain ⟨outside, found⟩ := (wins.members d).mp member
  refine (more.members d).mpr ⟨outside, ?_⟩
  rw [List.find?_append, found]
  rfl

end

-- `earlier` leads to some table, and `later` goes on from there. Every name of a table stands for
-- one thing; the next definition is appended exactly when its name is free, and is reported once
-- without any other effect when it is not; an imported table is its definitions, offered in turn;
-- and what was ever kept is found under its name, except for commands.
theorem first_definition_wins (earlier later : List Addition) :
    let before := earlier.foldlM extend {}
    let after := (earlier ++ later).foldlM extend {}
    FirstWins ((earlier ++ later).flatMap Addition.offers) after ∧
    (∀ d, (before.value.add d = ⟨before.value ++ d.alone, []⟩ ↔
        d.name ∉ builtinNames ++ before.value.names) ∧
      (d.name ∈ builtinNames ++ before.value.names → ∃ previous,
        before.value.Holds d.name previous ∧
          before.value.add d = ⟨before.value, [d.duplicate previous]⟩)) ∧
    (∀ t other, addImported t other = other.asImported.definitions.foldlM add t) ∧
    ∀ d ∈ before.value.definitions, after.value.resolve? d.name = d.target? := by
  intro before after
  have wins : FirstWins (earlier.flatMap Addition.offers) before := firstWins_extend earlier
  have more : FirstWins ((earlier ++ later).flatMap Addition.offers) after :=
    firstWins_extend (earlier ++ later)
  refine ⟨more, fun d => ⟨⟨?_, add_free⟩, add_taken⟩,
    fun t other => extend_offers t (.imported other), ?_⟩
  · intro added taken
    obtain ⟨previous, -, refused⟩ := add_taken taken
    rw [refused] at added
    cases congrArg Report.diagnostics added
  · intro d member
    rw [List.flatMap_append] at more
    exact more.distinct.resolve? (wins.mono more member)

-- A struct, and then a file that declares it again, a command, an enum and a built-in type.
def berth : StructDef := { location := lineOf "harbour" 1, name := "berth" }

def tide : EnumDef := { location := lineOf "port" 2, name := "tide" }

def port : SymbolTable where
  commands := [{ base := { location := lineOf "port" 1, name := "dock" }, commandName := "dock" }]
  enums := [tide]
  structs := [{ berth with location := lineOf "port" 3 }]
  types := [builtinType "string" "String" "string"]

def harbour : List Addition := [.one (.struct berth), .imported port]

def lateType : Definition := .type (builtinType "tide" "i32" "int")

theorem first_definition_wins_harbour :
    let before := harbour.foldlM extend {}
    let after := (harbour ++ [Addition.one lateType]).foldlM extend {}
    after.value.names = ["dock", "tide", "berth"] ∧
      before.diagnostics.length = 2 ∧ after.diagnostics.length = 3 ∧
      (∃ previous, before.value.Holds "tide" previous ∧
        before.value.add lateType = ⟨before.value, [lateType.duplicate previous]⟩) ∧
      after.value.resolve? "berth" = some (.struct berth) ∧
      after.value.resolve? "tide" = some (.enum { tide with imported := true }) ∧
      after.value.resolve? "dock" = none := by
  intro before after
  obtain ⟨-, steps, -, resolved⟩ := first_definition_wins harbour [.one lateType]
  have kept : before.value.definitions = port.asImported.commands.map .command ++
      [.enum { tide with imported := true }, .struct berth] := by
    rfl
  refine ⟨by decide, by decide, by decide, (steps lateType).2 (by decide),
    resolved (.struct berth) ?_, resolved (.enum { tide with imported := true }) ?_,
    resolved (.command port.asImported.commands.head!) ?_⟩
  all_goals
    show _ ∈ before.value.definitions
    rw [kept]
    simp [port, asImported]

end SymbolTable

end WireSchema.Schema
