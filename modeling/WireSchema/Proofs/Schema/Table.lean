import Mathlib.Data.List.Nodup
import WireSchema.Proofs.Outcome
import WireSchema.Proofs.Schema.Report
import WireSchema.Schema.SymbolTable

namespace WireSchema.Schema

-- In a distinct table every name stands for one thing, and what it leads to does not depend on the
-- order of the definitions.

def builtinNames : List String :=
  builtinTypes.map (·.name)

namespace SymbolTable

def names (t : SymbolTable) : List String :=
  t.commands.map (·.base.name) ++ t.enums.map (·.name) ++ t.structs.map (·.name) ++
    t.types.map (·.name)

-- The built-in types take their names before anybody else.
def Distinct (t : SymbolTable) : Prop :=
  (builtinNames ++ t.names).Nodup

def append (t u : SymbolTable) : SymbolTable where
  commands := t.commands ++ u.commands
  enums := t.enums ++ u.enums
  structs := t.structs ++ u.structs
  types := t.types ++ u.types

instance : Append SymbolTable := ⟨append⟩

def asImported (t : SymbolTable) : SymbolTable where
  commands := t.commands.map fun c => { c with base := { c.base with imported := true } }
  enums := t.enums.map fun e => { e with imported := true }
  structs := t.structs.map fun s => { s with imported := true }
  types := t.types.map fun d => { d with imported := true }

section

variable {t u v next : SymbolTable} {name : String}

theorem append_parts (t u : SymbolTable) :
    (t ++ u).commands = t.commands ++ u.commands ∧ (t ++ u).enums = t.enums ++ u.enums ∧
      (t ++ u).structs = t.structs ++ u.structs ∧ (t ++ u).types = t.types ++ u.types :=
  ⟨rfl, rfl, rfl, rfl⟩

theorem append_empty (t : SymbolTable) : t ++ ({} : SymbolTable) = t := by
  obtain ⟨commands, enums, structs, types⟩ := t
  show SymbolTable.mk _ _ _ _ = _
  simp

theorem empty_append (t : SymbolTable) : ({} : SymbolTable) ++ t = t := rfl

theorem append_assoc (t u v : SymbolTable) : t ++ u ++ v = t ++ (u ++ v) := by
  show SymbolTable.mk _ _ _ _ = SymbolTable.mk _ _ _ _
  simp [append_parts]

theorem names_append (t u : SymbolTable) : (t ++ u).names.Perm (t.names ++ u.names) := by
  have counted (name : String) :
      (t ++ u).names.count name = (t.names ++ u.names).count name := by
    simp only [names, append_parts, List.map_append, List.count_append]
    omega
  exact List.perm_iff_count.mpr counted

theorem Distinct.left (distinct : (t ++ u).Distinct) : t.Distinct := by
  have all := ((names_append t u).append_left (builtinNames)).nodup_iff.mp distinct
  rw [← List.append_assoc] at all
  exact all.of_append_left

theorem Distinct.right (distinct : (t ++ u).Distinct) : u.Distinct := by
  have all := ((names_append t u).append_left (builtinNames)).nodup_iff.mp distinct
  exact all.sublist (List.Sublist.append_left (List.sublist_append_right ..) _)

theorem distinct_append_one (distinct : t.Distinct) (one : u.names = [name]) :
    (t ++ u).Distinct ↔ name ∉ builtinNames ++ t.names := by
  have reordered : (builtinNames ++ (t ++ u).names).Perm
      (name :: (builtinNames ++ t.names)) := by
    refine ((names_append t u).append_left _).trans ?_
    rw [one, ← List.append_assoc]
    exact List.perm_append_singleton ..
  unfold Distinct
  rw [reordered.nodup_iff, List.nodup_cons]
  exact and_iff_left distinct

theorem distinct_empty : Distinct {} := by
  unfold Distinct names
  decide

theorem kindOf?_none : t.kindOf? name = none ↔ name ∉ builtinNames ++ t.names := by
  have taken {α : Type} {key : α → String} {l : List α} :
      l.any (key · == name) = true ↔ name ∈ l.map key := by
    simp
  simp only [kindOf?, names, builtinNames, List.mem_append, not_or, ← taken]
  grind

theorem insert_clean {location : Location} {kind : String} {added : SymbolTable}
    (distinct : t.Distinct) (one : u.names = [name]) (joined : added = t ++ u) :
    t.insert location name kind added = pure next ↔ next = t ++ u ∧ next.Distinct := by
  subst joined
  unfold insert
  cases found : t.kindOf? name with
  | some previous =>
    have taken : ¬(t ++ u).Distinct := by
      rw [distinct_append_one distinct one, ← kindOf?_none, found]
      simp
    simp only [Report.complain_bind, false_iff, not_and]
    rintro rfl
    exact taken
  | none =>
    have fresh := (distinct_append_one distinct one).mpr (kindOf?_none.mp found)
    simp only [Report.pure_clean]
    constructor
    · rintro rfl
      exact ⟨rfl, fresh⟩
    · rintro ⟨rfl, -⟩
      rfl

theorem addCommand_exact {c : CommandDef} (distinct : t.Distinct) :
    t.addCommand c = pure next ↔ next = t ++ { commands := [c] } ∧ next.Distinct := by
  refine insert_clean distinct rfl ?_
  show _ = SymbolTable.mk _ _ _ _
  simp

theorem addEnum_exact {e : EnumDef} (distinct : t.Distinct) :
    t.addEnum e = pure next ↔ next = t ++ { enums := [e] } ∧ next.Distinct := by
  refine insert_clean distinct rfl ?_
  show _ = SymbolTable.mk _ _ _ _
  simp

theorem addStruct_exact {s : StructDef} (distinct : t.Distinct) :
    t.addStruct s = pure next ↔ next = t ++ { structs := [s] } ∧ next.Distinct := by
  refine insert_clean distinct rfl ?_
  show _ = SymbolTable.mk _ _ _ _
  simp

theorem addType_exact {d : TypeDef} (distinct : t.Distinct) :
    t.addType d = pure next ↔ next = t ++ { types := [d] } ∧ next.Distinct := by
  refine insert_clean distinct rfl ?_
  show _ = SymbolTable.mk _ _ _ _
  simp

-- Definitions of one kind, added one after the other. `table` holds them all at once.
theorem foldlM_add_exact {α : Type} {add : SymbolTable → α → Report SymbolTable}
    (table : List α → SymbolTable) (empty : table [] = {})
    (more : ∀ a rest, table (a :: rest) = table [a] ++ table rest)
    (each : ∀ t a next, t.Distinct →
      (add t a = pure next ↔ next = t ++ table [a] ∧ next.Distinct))
    {items : List α} (distinct : t.Distinct) :
    items.foldlM add t = pure next ↔ next = t ++ table items ∧ next.Distinct := by
  induction items generalizing t with
  | nil =>
    rw [List.foldlM_nil, Report.pure_clean, empty, append_empty]
    constructor
    · rintro rfl
      exact ⟨rfl, distinct⟩
    · rintro ⟨rfl, -⟩
      rfl
  | cons a rest ih =>
    rw [List.foldlM_cons, Report.bind_clean, more, ← append_assoc]
    constructor
    · rintro ⟨middle, added, ran⟩
      obtain ⟨rfl, kept⟩ := (each t a middle distinct).mp added
      exact (ih kept).mp ran
    · rintro ⟨rfl, all⟩
      exact ⟨t ++ table [a], (each t a _ distinct).mpr ⟨rfl, all.left⟩,
        (ih all.left).mpr ⟨rfl, all⟩⟩

theorem addImported_exact {other : SymbolTable} (distinct : t.Distinct) :
    t.addImported other = pure next ↔ next = t ++ other.asImported ∧ next.Distinct := by
  have parts (t : SymbolTable) : t ++ other.asImported =
      t ++ ({ commands := other.asImported.commands } : SymbolTable) ++
        ({ enums := other.asImported.enums } : SymbolTable) ++
        ({ structs := other.asImported.structs } : SymbolTable) ++
        ({ types := other.asImported.types } : SymbolTable) := by
    show SymbolTable.mk _ _ _ _ = SymbolTable.mk _ _ _ _
    simp [append_parts]
  have commands {t next : SymbolTable} (distinct : t.Distinct) :
      other.commands.foldlM
          (fun t c => t.addCommand { c with base := { c.base with imported := true } }) t =
        pure next ↔ next = t ++ { commands := other.asImported.commands } ∧ next.Distinct :=
    foldlM_add_exact (fun cs => { commands := (asImported { commands := cs }).commands })
      rfl (fun _ _ => rfl) (fun _ _ _ distinct => addCommand_exact distinct) distinct
  have enums {t next : SymbolTable} (distinct : t.Distinct) :
      other.enums.foldlM (fun t e => t.addEnum { e with imported := true }) t = pure next ↔
        next = t ++ { enums := other.asImported.enums } ∧ next.Distinct :=
    foldlM_add_exact (fun es => { enums := (asImported { enums := es }).enums })
      rfl (fun _ _ => rfl) (fun _ _ _ distinct => addEnum_exact distinct) distinct
  have structs {t next : SymbolTable} (distinct : t.Distinct) :
      other.structs.foldlM (fun t s => t.addStruct { s with imported := true }) t = pure next ↔
        next = t ++ { structs := other.asImported.structs } ∧ next.Distinct :=
    foldlM_add_exact (fun ss => { structs := (asImported { structs := ss }).structs })
      rfl (fun _ _ => rfl) (fun _ _ _ distinct => addStruct_exact distinct) distinct
  have types {t next : SymbolTable} (distinct : t.Distinct) :
      other.types.foldlM (fun t d => t.addType { d with imported := true }) t = pure next ↔
        next = t ++ { types := other.asImported.types } ∧ next.Distinct :=
    foldlM_add_exact (fun ds => { types := (asImported { types := ds }).types })
      rfl (fun _ _ => rfl) (fun _ _ _ distinct => addType_exact distinct) distinct
  unfold addImported
  simp only [Report.bind_clean]
  constructor
  · rintro ⟨a, ran, b, ran', c, ran'', last⟩
    obtain ⟨rfl, kept⟩ := (commands distinct).mp ran
    obtain ⟨rfl, kept⟩ := (enums kept).mp ran'
    obtain ⟨rfl, kept⟩ := (structs kept).mp ran''
    obtain ⟨rfl, kept⟩ := (types kept).mp last
    exact ⟨(parts t).symm, kept⟩
  · rintro ⟨rfl, kept⟩
    rw [parts] at kept ⊢
    exact ⟨_, (commands distinct).mpr ⟨rfl, kept.left.left.left⟩, _,
      (enums kept.left.left.left).mpr ⟨rfl, kept.left.left⟩, _,
      (structs kept.left.left).mpr ⟨rfl, kept.left⟩, (types kept.left).mpr ⟨rfl, kept⟩⟩

end

structure Perm (t u : SymbolTable) : Prop where
  commands : t.commands.Perm u.commands
  enums : t.enums.Perm u.enums
  structs : t.structs.Perm u.structs
  types : t.types.Perm u.types

section

variable {t u : SymbolTable} {name : String}

theorem Perm.append_right (perm : t.Perm u) (v : SymbolTable) : (t ++ v).Perm (u ++ v) :=
  ⟨perm.commands.append_right _, perm.enums.append_right _, perm.structs.append_right _,
    perm.types.append_right _⟩

theorem Perm.distinct (perm : t.Perm u) (distinct : t.Distinct) : u.Distinct := by
  have names : t.names.Perm u.names :=
    (((perm.commands.map _).append (perm.enums.map _)).append (perm.structs.map _)).append
      (perm.types.map _)
  exact (names.append_left _).nodup_iff.mp distinct

theorem find?_perm {α : Type} {key : α → String} {l l' : List α} (perm : l.Perm l')
    (distinct : (l.map key).Nodup) :
    l.find? (key · == name) = l'.find? (key · == name) := by
  induction perm with
  | nil => rfl
  | cons a _ ih =>
    rw [List.find?_cons, List.find?_cons, ih (List.nodup_cons.mp distinct).2]
  | swap a b rest =>
    have apart : key a ≠ key b := by
      simp only [List.map_cons, List.nodup_cons, List.mem_cons, not_or] at distinct
      exact fun same => distinct.1.1 same.symm
    by_cases here : key a = name
    · have other : (key b == name) = false := by
        rw [beq_eq_false_iff_ne]
        exact fun there => apart (here.trans there.symm)
      simp [here, other]
    · have other : (key a == name) = false := by simpa using here
      simp [List.find?_cons, other]
  | trans first _ ih ih' =>
    exact (ih distinct).trans (ih' ((first.map key).nodup_iff.mp distinct))

structure Agrees (t u : SymbolTable) : Prop where
  type? : ∀ name, t.type? name = u.type? name
  enum? : ∀ name, t.enum? name = u.enum? name
  struct? : ∀ name, t.struct? name = u.struct? name

theorem Perm.agrees (perm : t.Perm u) (distinct : t.Distinct) : t.Agrees u := by
  unfold Distinct builtinNames names at distinct
  refine ⟨?_, ?_, ?_⟩
  · intro name
    refine find?_perm (perm.types.append_left builtinTypes) ?_
    rw [List.map_append]
    exact distinct.sublist (List.Sublist.append_left (List.sublist_append_right ..) _)
  · intro name
    refine find?_perm perm.enums ?_
    refine distinct.sublist ?_
    refine List.Sublist.trans ?_ (List.sublist_append_right ..)
    refine List.Sublist.trans ?_ (List.sublist_append_left ..)
    refine List.Sublist.trans ?_ (List.sublist_append_left ..)
    exact List.sublist_append_right ..
  · intro name
    refine find?_perm perm.structs ?_
    refine distinct.sublist ?_
    refine List.Sublist.trans ?_ (List.sublist_append_right ..)
    refine List.Sublist.trans ?_ (List.sublist_append_left ..)
    exact List.sublist_append_right ..

end

section

variable {t u : SymbolTable} {name : String}

theorem lookup_exact {r : Resolved} : t.lookup name = .ok r ↔ t.resolve? name = some r := by
  unfold lookup
  cases t.resolve? name <;> simp

theorem resolve?_name {r : Resolved} (known : t.resolve? name = some r) : r.name = name := by
  simp only [resolve?, Option.or_eq_some_iff, Option.map_eq_some_iff] at known
  rcases known with ⟨t, found, rfl⟩ | ⟨_, ⟨e, found, rfl⟩ | ⟨_, s, found, rfl⟩⟩
  · simpa [Resolved.name] using List.find?_some found
  · simpa [Resolved.name] using List.find?_some found
  · simpa [Resolved.name] using List.find?_some found

end

end SymbolTable

end WireSchema.Schema
