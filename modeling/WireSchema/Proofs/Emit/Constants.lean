import Mathlib.Data.List.DropRight
import Mathlib.Data.List.Nodup
import WireSchema.Emit.Declaration
import WireSchema.Proofs.Bound.Declared
import WireSchema.Proofs.Bound.Structs
import WireSchema.Proofs.Text.Casing

namespace WireSchema.Emit

open WireSchema.Bound (Field FieldBound Struct boundStruct intField)
open WireSchema.Text (Ascii)
open Schema (Report Spec fieldAt lineOf)

-- Fields that share a constant share its value, the least of their names. Fields of the struct
-- itself with names in ASCII never do; two that are inlined, or one that is inlined and one that is
-- not, may have one member name and with it one constant.

def nameConstant (f : Field) : String :=
  fieldNameConstant f.rustName

def declarationLine (entry : String × String) : Code :=
  let literal := textLiteral entry.2
  .line s!"pub const {entry.1}: &'static str = {literal};"

theorem constants_names (s : Struct) : (wireNames s).map declarationLine <+: constants s := by
  unfold constants
  simp only [List.append_assoc]
  exact List.prefix_append _ _

def HoldsOwnNames (s : Struct) : Prop :=
  ∀ f ∈ wireFields s, (nameConstant f, f.name) ∈ wireNames s

section

def Before (a b : String × String) : Prop :=
  a.1 < b.1 ∨ a.1 = b.1 ∧ a.2 ≤ b.2

theorem Before.trans {a b c : String × String} (first : Before a b) (second : Before b c) :
    Before a c := by
  rcases first with less | ⟨same, atMost⟩
  · rcases second with further | ⟨same, _⟩
    · exact .inl (String.lt_trans less further)
    · exact .inl (same ▸ less)
  · rcases second with less | ⟨further, atMost'⟩
    · exact .inl (same ▸ less)
    · exact .inr ⟨same.trans further, String.le_trans atMost atMost'⟩

theorem Before.total (a b : String × String) : Before a b ∨ Before b a := by
  by_cases less : a.1 < b.1
  · exact .inl (.inl less)
  · by_cases greater : b.1 < a.1
    · exact .inr (.inl greater)
    · have same := String.le_antisymm (String.not_lt.mp greater) (String.not_lt.mp less)
      rcases String.le_total a.2 b.2 with atMost | atLeast
      · exact .inl (.inr ⟨same, atMost⟩)
      · exact .inr (.inr ⟨same.symm, atLeast⟩)

theorem sorted_before (entries : List (String × String)) :
    (entries.mergeSort fun a b =>
      decide (a.1 < b.1) || (a.1 == b.1 && !decide (b.2 < a.2))).Pairwise Before := by
  have exact (a b : String × String) :
      (decide (a.1 < b.1) || (a.1 == b.1 && !decide (b.2 < a.2))) = true ↔ Before a b := by
    rw [Bool.or_eq_true, Bool.and_eq_true, decide_eq_true_iff, beq_iff_eq, Bool.not_eq_true',
      decide_eq_false_iff_not, String.not_lt, Before]
  have sorted := @List.pairwise_mergeSort (String × String)
    (fun a b => decide (a.1 < b.1) || (a.1 == b.1 && !decide (b.2 < a.2)))
    (fun a b c => by simp only [exact]; exact Before.trans)
    (fun a b => by rw [Bool.or_eq_true, exact, exact]; exact Before.total a b) entries
  exact sorted.imp fun {a b} less => (exact a b).mp less

theorem Before.le {a b : String × String} (before : Before a b) (same : a.1 = b.1) :
    a.2 ≤ b.2 := by
  rcases before with less | ⟨_, atMost⟩
  · exact absurd (same ▸ less) (String.lt_irrefl _)
  · exact atMost

theorem Before.lt {a b : String × String} (before : Before a b) (differ : a.1 ≠ b.1) :
    a.1 < b.1 := by
  rcases before with less | ⟨same, _⟩
  · exact less
  · exact absurd same differ

theorem keepFirstOfName_subset (entries : List (String × String)) :
    keepFirstOfName entries ⊆ entries := by
  fun_induction keepFirstOfName entries with
  | case1 a b rest same ih => grind
  | case2 a b rest differ ih => grind
  | case3 entries => exact fun _ there => there

theorem keepFirstOfName_least {entries : List (String × String)}
    (sorted : entries.Pairwise Before) {e : String × String} (there : e ∈ entries) :
    ∃ first ∈ keepFirstOfName entries, first.1 = e.1 ∧ first.2 ≤ e.2 := by
  fun_induction keepFirstOfName entries generalizing e with
  | case1 a b rest same ih =>
    have shorter : (a :: rest).Pairwise Before := sorted.sublist (by simp)
    have least := (List.rel_of_pairwise_cons sorted List.mem_cons_self).le (eq_of_beq same)
    by_cases second : e = b
    · obtain ⟨first, kept, named, atMost⟩ := ih shorter List.mem_cons_self
      exact ⟨first, kept, second ▸ named.trans (eq_of_beq same),
        second ▸ String.le_trans atMost least⟩
    · exact ih shorter (by grind)
  | case2 a b rest differ ih =>
    rcases List.mem_cons.mp there with rfl | later
    · exact ⟨e, List.mem_cons_self, rfl, String.le_refl _⟩
    · obtain ⟨first, kept, least⟩ := ih (List.pairwise_cons.mp sorted).2 later
      exact ⟨first, List.mem_cons_of_mem _ kept, least⟩
  | case3 entries => exact ⟨e, there, rfl, String.le_refl _⟩

theorem keepFirstOfName_ascending {entries : List (String × String)}
    (sorted : entries.Pairwise Before) :
    (keepFirstOfName entries).Pairwise fun a b => a.1 < b.1 := by
  fun_induction keepFirstOfName entries with
  | case1 a b rest same ih => exact ih (sorted.sublist (by simp))
  | case2 a b rest differ ih =>
    obtain ⟨first, others⟩ := List.pairwise_cons.mp sorted
    refine List.pairwise_cons.mpr ⟨?_, ih others⟩
    intro e kept
    have less := (first b List.mem_cons_self).lt (by simpa using differ)
    rcases List.mem_cons.mp (keepFirstOfName_subset _ kept) with rfl | later
    · exact less
    · rcases List.rel_of_pairwise_cons others later with further | ⟨same, _⟩
      · exact String.lt_trans less further
      · exact same ▸ less
  | case3 entries short =>
    cases entries with
    | nil => exact .nil
    | cons a rest =>
      cases rest with
      | nil => simp
      | cons b rest => exact absurd rfl (short a b rest)

theorem keepFirstOfName_nodup {entries : List (String × String)}
    (sorted : entries.Pairwise Before) : ((keepFirstOfName entries).map (·.1)).Nodup := by
  apply List.pairwise_map.mpr
  apply (keepFirstOfName_ascending sorted).imp
  intro a b less same
  exact String.lt_irrefl _ (same ▸ less)

theorem mem_keepFirstOfName {entries : List (String × String)} (sorted : entries.Pairwise Before)
    {e : String × String} :
    e ∈ keepFirstOfName entries ↔
      e ∈ entries ∧ ∀ other ∈ entries, other.1 = e.1 → e.2 ≤ other.2 := by
  constructor
  · intro kept
    refine ⟨keepFirstOfName_subset _ kept, ?_⟩
    intro other there named
    obtain ⟨first, alsoKept, same, atMost⟩ := keepFirstOfName_least sorted there
    have one := List.inj_on_of_nodup_map (keepFirstOfName_nodup sorted) alsoKept kept
      (same.trans named)
    exact one ▸ atMost
  · rintro ⟨there, least⟩
    obtain ⟨first, kept, same, atMost⟩ := keepFirstOfName_least sorted there
    have atLeast := least first (keepFirstOfName_subset _ kept) same
    have one : first = e := Prod.ext same (String.le_antisymm atMost atLeast)
    exact one ▸ kept

end

section

variable {s : Struct}

theorem fieldNameConstant_ne_command (member : String) :
    fieldNameConstant member ≠ "COMMAND_NAME" := by
  intro same
  have suffix : "_FIELD_NAME".toList <:+ "COMMAND_NAME".toList := by
    rw [← same, fieldNameConstant, String.toList_append]
    exact List.suffix_append _ _
  exact absurd suffix (by decide)

def wireEntries (s : Struct) : List (String × String) :=
  (wireFields s).map (fun f => (nameConstant f, f.name)) ++
    s.command.toList.map fun c => ("COMMAND_NAME", c.commandName)

theorem wireNames_eq (s : Struct) :
    wireNames s = keepFirstOfName ((wireEntries s).mergeSort fun a b =>
      decide (a.1 < b.1) || (a.1 == b.1 && !decide (b.2 < a.2))) :=
  rfl

theorem mem_wireEntries {f : Field} {value : String} :
    (nameConstant f, value) ∈ wireEntries s ↔
      ∃ g ∈ wireFields s, nameConstant g = nameConstant f ∧ g.name = value := by
  have other : ("COMMAND_NAME" = nameConstant f) = False :=
    eq_false (fieldNameConstant_ne_command f.rustName).symm
  simp [wireEntries, other]

theorem mem_wireNames {f : Field} {value : String} :
    (nameConstant f, value) ∈ wireNames s ↔
      (∃ g ∈ wireFields s, nameConstant g = nameConstant f ∧ g.name = value) ∧
        ∀ g ∈ wireFields s, nameConstant g = nameConstant f → value ≤ g.name := by
  rw [wireNames_eq, mem_keepFirstOfName (sorted_before _), List.mem_mergeSort, mem_wireEntries]
  apply and_congr_right
  intro _
  constructor
  · intro least g member same
    have there : (nameConstant f, g.name) ∈ wireEntries s :=
      mem_wireEntries.mpr ⟨g, member, same, rfl⟩
    exact least _ (List.mem_mergeSort.mpr there) rfl
  · intro least entry there same
    have named : (nameConstant f, entry.2) ∈ wireEntries s := by
      rw [← show entry.1 = nameConstant f from same]
      exact List.mem_mergeSort.mp there
    obtain ⟨g, member, shared, value⟩ := mem_wireEntries.mp named
    rw [← value]
    exact least g member shared

theorem wireNames_nodup (s : Struct) : ((wireNames s).map (·.1)).Nodup := by
  rw [wireNames_eq]
  exact keepFirstOfName_nodup (sorted_before _)

-- Wire names differ, so a constant that two fields share holds one name at most.
theorem holdsOwnNames_exact (wellFormed : s.WellFormed) :
    HoldsOwnNames s ↔ ((wireFields s).map nameConstant).Nodup := by
  constructor
  · intro holds
    have names := List.pairwise_filterMap.mp wellFormed.names
    apply List.pairwise_map.mpr
    apply List.Pairwise.imp_of_mem ?_ (names.filter _)
    intro f g here there differ same
    have first := (mem_wireNames.mp (holds f here)).2 g there same.symm
    have second := (mem_wireNames.mp (holds g there)).2 f here same
    have named {h : Field} (member : h ∈ wireFields s) : h.wireName? = some h.name := by
      have onWire := (List.mem_filter.mp member).2
      simp_all [Field.wireName?]
    exact differ _ (named here) _ (named there) (String.le_antisymm first second)
  · intro apart f member
    refine mem_wireNames.mpr ⟨⟨f, member, rfl, rfl⟩, ?_⟩
    intro g there same
    have one := List.inj_on_of_nodup_map apart there member same
    exact one ▸ String.le_refl _

end

section

variable {symbols : Schema.SymbolTable} {s : Struct}

theorem unreserved_dropEnd {name : String} (whole : ∀ c ∈ name.toList.getLast?, c ≠ '_') :
    Text.dropEnd (· == '_') (unreserved name).toList = name.toList := by
  have plain : name.toList.rdropWhile (· == '_') = name.toList := by
    apply List.rdropWhile_eq_self_iff.mpr
    intro some
    simpa using whole _ (List.getLast?_eq_some_getLast some)
  unfold unreserved
  split
  · rw [String.toList_append]
    exact (List.rdropWhile_concat_pos _ _ _ (by decide)).trans plain
  · exact plain

theorem ascii_unreserved {name : String} (ascii : Ascii (unreserved name)) : Ascii name := by
  intro c there
  apply ascii c
  unfold unreserved
  split
  · rw [String.toList_append]
    exact List.mem_append_left _ there
  · exact there

-- A member name in ASCII is still to be told from its constant.
theorem nameConstant_apart {a b : String} (first : Ascii (Bound.memberNameOf a))
    (second : Ascii (Bound.memberNameOf b))
    (same : fieldNameConstant (Bound.memberNameOf a) = fieldNameConstant (Bound.memberNameOf b)) :
    Bound.memberNameOf a = Bound.memberNameOf b := by
  have constant {name : String} (ascii : Ascii (Bound.memberNameOf name)) :
      constantName (Bound.memberNameOf name) = Casing.shoutySnake (Casing.snake name) := by
    have chars := Casing.snake_chars (ascii_unreserved ascii)
    unfold constantName Bound.memberNameOf memberName
    rw [unreserved_dropEnd chars.2, String.ofList_toList]
  have capitals := (constant first).symm.trans
    (((String.append_left_inj _).mp same).trans (constant second))
  apply congrArg unreserved
  exact Casing.shoutySnake_apart (ascii_unreserved first) (ascii_unreserved second) capitals

theorem fieldBound_member {f : Field} (bound : FieldBound symbols f) :
    ∃ name, f.rustName = Bound.memberNameOf name := by
  have declared {owner : String} {d : Schema.FieldDef} {b : Field}
      (bound : Bound.bindField symbols owner d = pure (some b)) :
      b.rustName = Bound.memberNameOf (d.rustName.getD d.name) := by
    obtain ⟨_, same, _, _, _, _, _, rfl⟩ := Bound.bindField_fieldOf bound
    cases same
    simp only [Bound.filledIn]
  cases bound with
  | @chainedType c => exact ⟨c.rustName, by simp only [Bound.chainedMember]⟩
  | @chainedStruct c => exact ⟨c.rustName, by simp only [Bound.chainedMember]⟩
  | inlined bound =>
    have named := declared bound
    exact ⟨_, named⟩
  | own bound => exact ⟨_, declared bound⟩
  | database known =>
    obtain ⟨_, _, rfl⟩ := Option.map_eq_some_iff.mp known
    have unchanged : "db_name" = Bound.memberNameOf "db_name" := by decide +kernel
    exact ⟨_, unchanged⟩

theorem constants_ascii (made : ∀ f ∈ wireFields s, ∃ name, f.rustName = Bound.memberNameOf name)
    (ascii : ∀ f ∈ wireFields s, Ascii f.rustName) :
    ((wireFields s).map nameConstant).Nodup ↔ ((wireFields s).map (·.rustName)).Nodup := by
  unfold List.Nodup
  rw [List.pairwise_map, List.pairwise_map]
  apply List.Pairwise.iff_of_mem
  intro f g here there
  apply not_congr
  constructor
  · intro same
    obtain ⟨a, first⟩ := made f here
    obtain ⟨b, second⟩ := made g there
    unfold nameConstant at same
    have small := ascii f here
    have small' := ascii g there
    rw [first] at same small ⊢
    rw [second] at same small' ⊢
    exact nameConstant_apart small small' same
  · intro same
    exact congrArg fieldNameConstant same

theorem members_apart (wellFormed : s.WellFormed) (own : ∀ f ∈ wireFields s, f.owner = none) :
    ((wireFields s).map (·.rustName)).Nodup := by
  have members := List.pairwise_filterMap.mp wellFormed.members
  apply List.pairwise_map.mpr
  apply List.Pairwise.imp_of_mem ?_ (members.filter _)
  intro f g here there differ same
  have stored {h : Field} (member : h ∈ wireFields s) : h.member? = some h.rustName := by
    simp [Field.member?, own h member]
  exact differ _ (stored here) _ (stored there) same

end

theorem name_constants_exact {spec : Spec} {idl : Bound.Idl} (bound : Bound.bind spec = .ok idl)
    {s : Struct} (member : s ∈ idl.structs) :
    (wireNames s).map declarationLine <+: constants s ∧ ((wireNames s).map (·.1)).Nodup ∧
      (∀ f value, (nameConstant f, value) ∈ wireNames s ↔
        (∃ g ∈ wireFields s, nameConstant g = nameConstant f ∧ g.name = value) ∧
          ∀ g ∈ wireFields s, nameConstant g = nameConstant f → value ≤ g.name) ∧
      (HoldsOwnNames s ↔ ((wireFields s).map nameConstant).Nodup) ∧
      ((∀ f ∈ wireFields s, Ascii f.rustName) →
        (HoldsOwnNames s ↔ ((wireFields s).map (·.rustName)).Nodup) ∧
          ((∀ f ∈ wireFields s, f.owner = none) → HoldsOwnNames s)) := by
  obtain ⟨_, _, structs⟩ := Bound.bind_parts bound
  have wellFormed := (structs s member).wellFormed
  have exact := holdsOwnNames_exact wellFormed
  refine ⟨constants_names s, wireNames_nodup s, fun f value => mem_wireNames, exact, ?_⟩
  intro ascii
  have made (f : Field) (onWire : f ∈ wireFields s) :=
    fieldBound_member ((structs s member).field (List.mem_filter.mp onWire).1)
  have names := exact.trans (constants_ascii made ascii)
  exact ⟨names, fun own => names.mpr (members_apart wellFormed own)⟩

section

def queryWith (name : String) : Spec :=
  { symbols := { structs := [
      { location := lineOf "query.idl" 1, name := "page"
        fields := [
          fieldAt (lineOf "query.idl" 2) "batch_size" "int"] },
      { location := lineOf "query.idl" 4, name := "query"
        chainedStructs := [{ location := lineOf "query.idl" 5, name := "page", rustName := "page" }]
        fields := [
          fieldAt (lineOf "query.idl" 6) name "int"] }] } }

def pageSize : Field :=
  { intField "batch_size" "batch_size" with owner := some "page" }

def boundQuery (name member : String) : Struct :=
  boundStruct "query" "Query" [
    { name := "page", rustName := "page", kind := .struct ⟨"page", "Page"⟩, chained := true },
    pageSize, intField name member]

theorem name_constants_exact_query :
    ∃ idl, Bound.bind (queryWith "limit") = .ok idl ∧ boundQuery "limit" "limit" ∈ idl.structs ∧
      (∀ f ∈ wireFields (boundQuery "limit" "limit"), Ascii f.rustName) ∧
      HoldsOwnNames (boundQuery "limit" "limit") := by
  have bound : Bound.bind (queryWith "limit") = .ok (Bound.bindAll (queryWith "limit")).value :=
    Report.toExcept_of_clean (by decide +kernel)
  have member : boundQuery "limit" "limit" ∈ (Bound.bindAll (queryWith "limit")).value.structs := by
    decide +kernel
  have ascii : ∀ f ∈ wireFields (boundQuery "limit" "limit"), Ascii f.rustName := by
    have all : ((wireFields (boundQuery "limit" "limit")).all fun f =>
        f.rustName.toList.all fun c => decide (c.toNat < 128)) = true := by decide +kernel
    simp only [List.all_eq_true, decide_eq_true_iff] at all
    exact all
  obtain ⟨_, _, _, _, inAscii⟩ := name_constants_exact bound member
  exact ⟨_, bound, member, ascii, (inAscii ascii).1.mpr (by decide +kernel)⟩

-- The inlined size and the query's own have one constant, and it holds the name of the latter.
theorem one_constant_two_names :
    ∃ idl, Bound.bind (queryWith "batchSize") = .ok idl ∧
      boundQuery "batchSize" "batch_size" ∈ idl.structs ∧
      wireFields (boundQuery "batchSize" "batch_size") =
        [pageSize, intField "batchSize" "batch_size"] ∧
      nameConstant pageSize = nameConstant (intField "batchSize" "batch_size") ∧
      (nameConstant pageSize, "batchSize") ∈ wireNames (boundQuery "batchSize" "batch_size") ∧
      (nameConstant pageSize, "batch_size") ∉ wireNames (boundQuery "batchSize" "batch_size") := by
  have bound : Bound.bind (queryWith "batchSize") =
      .ok (Bound.bindAll (queryWith "batchSize")).value :=
    Report.toExcept_of_clean (by decide +kernel)
  have fields : wireFields (boundQuery "batchSize" "batch_size") =
      [pageSize, intField "batchSize" "batch_size"] := by decide +kernel
  have shared : nameConstant pageSize = nameConstant (intField "batchSize" "batch_size") := rfl
  refine ⟨_, bound, by decide +kernel, fields, shared, ?_, ?_⟩
  · refine mem_wireNames.mpr ⟨⟨intField "batchSize" "batch_size", ?_, shared.symm, rfl⟩, ?_⟩
    · simp [fields]
    · rw [fields]
      decide +kernel
  · intro holds
    have least := (mem_wireNames.mp holds).2 (intField "batchSize" "batch_size")
      (by simp [fields]) shared.symm
    exact absurd least (by decide)

end

end WireSchema.Emit
