import Mathlib.Algebra.Group.Action.Defs
import Mathlib.Algebra.Order.BigOperators.Group.List
import Mathlib.Data.Nat.Digits.Lemmas
import WireSchema.Files.Compilation
import WireSchema.Proofs.Files.Places
import WireSchema.Proofs.Schema.Merging
import WireSchema.Proofs.Schema.Requests

namespace WireSchema.Files.FileTree

open Schema (BreadthFirst Closure Library Request Spec definedNames)

-- One place has many spellings, so a file may be merged more than once. But then everything in it
-- would be defined more than once, so a schema without faults has merged each file that defines
-- something under one spelling only. There are as many spellings as paths of bounded length, so the
-- way along the imports ends, also where it leads around in a circle of ever longer spellings.

def textAt (t : FileTree) (p : Place) : Option String :=
  match t.entry? p with
  | some (.file bytes) => Bson.textOfBytes? bytes
  | _ => none

def definedAt (t : FileTree) (p : Place) : List String :=
  ((t.textAt p).map definedNames).getD []

section

variable {t : FileTree} {importDirs : List String} {path text : String} {spec : Spec}
  {c : Closure} {done : List Request}

theorem readText_find (read : t.readText path = .ok text) :
    t.find path = .ok (.file (Bson.textBytes text)) := by
  obtain ⟨e, found, read⟩ := bind_ok_exact.mp read
  cases e with
  | directory => cases read
  | file bytes =>
    dsimp only at read
    split at read
    · rename_i text' whole
      cases read
      rw [found, (Bson.textOfBytes?_exact ..).mp whole]
    · cases read

theorem readText_place (read : t.readText path = .ok text) :
    t.textAt (Path.resolve t.home path) = some text := by
  obtain ⟨p, led, there⟩ := find_exact.mp (readText_find read)
  rw [← locate_resolve led, textAt, there]
  exact (Bson.textOfBytes?_exact _ text).mpr rfl

theorem definedAt_place (read : t.readText path = .ok text) :
    t.definedAt (Path.resolve t.home path) = definedNames text := by
  rw [definedAt, readText_place read]
  rfl

theorem library_read_exact :
    (t.library importDirs).read path = .ok text ↔ t.readText path = .ok text := by
  cases read : t.readText path <;> simp [library, read]

theorem library_defined (read : t.readText path = .ok text) :
    (t.library importDirs).defined path = t.definedAt (Path.resolve t.home path) := by
  rw [Library.defined_of (library_read_exact.mpr read), definedAt_place read]

theorem nodup_filter_exact {α : Type} [BEq α] [LawfulBEq α] {l : List α} {p : α → Bool}
    (others : ∀ a, p a = false → l.count a ≤ 1) : l.Nodup ↔ (l.filter p).Nodup := by
  refine ⟨fun once => once.filter p, fun once => List.nodup_iff_count_le_one.mpr fun a => ?_⟩
  cases kept : p a with
  | false => exact others a kept
  | true =>
    rw [← List.count_filter kept]
    exact List.nodup_iff_count_le_one.mp once a

theorem count_le_one {α β : Type} [BEq α] [LawfulBEq α] {l : List α} {f : α → List β}
    {a : α} (once : (l.flatMap f).Nodup) (some : f a ≠ []) : l.count a ≤ 1 := by
  by_contra twice
  have pair : (List.replicate 2 a).Sublist l :=
    List.replicate_sublist_iff.mpr (Nat.lt_of_not_le twice)
  have apart := List.pairwise_iff_forall_sublist.mp (List.nodup_flatMap.mp once).2 pair
  exact some (List.eq_nil_iff_forall_not_mem.mpr fun b there => apart there there)

theorem find_short {e : Entry} (found : t.find path = .ok e) : path.utf8ByteSize ≤ maxPath := by
  obtain ⟨p, led, -⟩ := find_exact.mp found
  have passed := (locate_exact.mp led).1
  unfold checkPath at passed
  split at passed
  · cases passed
  split at passed
  · cases passed
  split at passed
  · cases passed
  · omega

theorem find_size {bytes : List UInt8} (found : t.find path = .ok (.file bytes)) :
    bytes.length ≤ t.size := by
  obtain ⟨p, -, there⟩ := find_exact.mp found
  unfold entry? at there
  split at there
  · cases there
  obtain ⟨before, behind, parts, -⟩ := List.lookup_eq_some_iff.mp there
  rw [size, ← List.sum_eq_foldl_nat]
  refine List.le_sum_of_mem (List.mem_map.mpr ⟨(p, .file bytes), ?_, rfl⟩)
  rw [parts]
  simp

-- A path as the digits of a number, with a last one that tells where it ends.
def pathNumber (path : String) : Nat :=
  Nat.ofDigits 256 ((Bson.textBytes path).map UInt8.toNat ++ [1])

theorem digits_pathNumber (path : String) :
    Nat.digits 256 (pathNumber path) = (Bson.textBytes path).map UInt8.toNat ++ [1] := by
  refine Nat.digits_ofDigits 256 (by omega) _ ?_ (by simp)
  intro d member
  rcases List.mem_append.mp member with byte | last
  · obtain ⟨b, -, rfl⟩ := List.mem_map.mp byte
    exact b.toNat_lt
  · rw [List.mem_singleton.mp last]
    omega

theorem pathNumber_inj {other : String} (same : pathNumber path = pathNumber other) :
    path = other := by
  have digits := congrArg (Nat.digits 256) same
  rw [digits_pathNumber, digits_pathNumber] at digits
  have bytes : Bson.textBytes path = Bson.textBytes other :=
    List.map_injective_iff.mpr (fun _ _ => UInt8.toNat_inj.mp) (List.append_cancel_right digits)
  have here := (Bson.textOfBytes?_exact _ path).mpr rfl
  rw [bytes, (Bson.textOfBytes?_exact _ other).mpr rfl] at here
  exact (Option.some.inj here).symm

theorem pathNumber_lt : pathNumber path < 256 ^ (path.utf8ByteSize + 1) := by
  have digits := Nat.lt_base_pow_length_digits (b := 256) (m := pathNumber path) (by omega)
  rw [digits_pathNumber, List.length_append, List.length_map] at digits
  exact digits

theorem paths_bounded {paths : List String} {m : Nat} (once : paths.Nodup)
    (short : ∀ path ∈ paths, path.utf8ByteSize ≤ m) : paths.length ≤ 256 ^ (m + 1) := by
  have numbers : (paths.map pathNumber).Nodup := once.map fun _ _ => pathNumber_inj
  have inside : paths.map pathNumber ⊆ List.range (256 ^ (m + 1)) := by
    intro n member
    obtain ⟨path, among, rfl⟩ := List.mem_map.mp member
    have longer : path.utf8ByteSize + 1 ≤ m + 1 := Nat.succ_le_succ (short path among)
    exact List.mem_range.mpr
      (Nat.lt_of_lt_of_le pathNumber_lt (Nat.pow_le_pow_right (by omega) longer))
  have fewer := (numbers.subperm inside).length_le
  rwa [List.length_map, List.length_range] at fewer

theorem requests_size (read : t.readText path = .ok text) :
    ((t.library importDirs).requests path).length ≤ text.utf8ByteSize := by
  rw [Library.requests_of (library_read_exact.mpr read)]
  exact Schema.requests_length

theorem merged_reads (merged : c.Merged (t.library importDirs) path done) :
    ∀ f ∈ path :: c.resolved, ∃ text, t.readText f = .ok text := by
  intro f member
  obtain ⟨text, opened⟩ := merged.read f member
  exact ⟨text, library_read_exact.mp opened⟩

theorem requests_bounded (merged : c.Merged (t.library importDirs) path done)
    (read : t.readText path = .ok text) :
    ((path :: c.resolved).flatMap (t.library importDirs).requests).length ≤ t.importBound text := by
  have readable (f : String) (member : f ∈ c.resolved) : ∃ text, t.readText f = .ok text :=
    merged_reads merged f (List.mem_cons_of_mem _ member)
  have each : ∀ n ∈ c.resolved.map fun f => ((t.library importDirs).requests f).length,
      n ≤ t.size := by
    intro n member
    obtain ⟨f, among, rfl⟩ := List.mem_map.mp member
    obtain ⟨text, read⟩ := readable f among
    exact (requests_size read).trans (find_size (readText_find read))
  have spelled : c.resolved.length ≤ 256 ^ (maxPath + 1) := by
    refine paths_bounded (List.nodup_cons.mp merged.distinct).2 fun f member => ?_
    obtain ⟨text, read⟩ := readable f member
    exact find_short (readText_find read)
  have others := List.sum_le_card_nsmul _ _ each
  rw [List.length_map, smul_eq_mul, Nat.mul_comm] at others
  rw [List.flatMap_cons, List.length_append, List.length_flatMap, importBound, Nat.pow_eq]
  -- The number is never computed.
  generalize 256 ^ (maxPath + 1) = most at spelled ⊢
  exact Nat.add_le_add (requests_size read) (others.trans (Nat.mul_le_mul_left _ spelled))

theorem parseFile_ok (parsed : t.parseFile importDirs path = .ok spec) :
    ∃ text, t.readText path = .ok text ∧
      Schema.follow (t.importBound text) (t.library importDirs) text path = pure spec := by
  unfold parseFile at parsed
  split at parsed
  · cases parsed
  rename_i text read
  exact ⟨text, read, Schema.Report.toExcept_exact.mp (mapError_ok_exact.mp parsed)⟩

theorem parseFile_merged (parsed : t.parseFile importDirs path = .ok spec) :
    ∃ (c : Closure) (done : List Request),
      c.Merged (t.library importDirs) path done ∧ c.pending = [] ∧
        spec.mergedFiles = c.resolved ∧ spec.symbols = c.symbols := by
  obtain ⟨text, read, followed⟩ := parseFile_ok parsed
  obtain ⟨c, done, merged, ended, listed, symbols⟩ :=
    Schema.follow_merged (library_read_exact.mpr read) followed
  refine ⟨c, done, merged, ?_, listed, symbols⟩
  rcases ended with none | used
  · exact none
  · have total := requests_bounded merged read
    rw [merged.asked, List.length_append, used] at total
    exact List.length_eq_zero_iff.mp (by omega)

-- In a schema without faults every import is found, and all files that the imports lead to are merged
-- breadth first, each once under every spelling of its path that they use. The schema has the names
-- that are defined at the places of these files, so one that defines a name has one spelling only.
theorem imports_merge_once (parsed : t.parseFile importDirs path = .ok spec) :
    let files := path :: spec.mergedFiles
    let places := files.map (Path.resolve t.home)
    BreadthFirst (t.library importDirs).imported path files ∧
    (∀ f ∈ files, ∀ request ∈ (t.library importDirs).requests f,
      ((t.library importDirs).known request).isSome) ∧
    (∀ f ∈ files, ∃ text, t.readText f = .ok text ∧
      t.textAt (Path.resolve t.home f) = some text) ∧
    spec.symbols.names.Nodup ∧ spec.symbols.names.Perm (places.flatMap t.definedAt) ∧
    (∀ p, t.definedAt p ≠ [] → places.count p ≤ 1) ∧
    (places.Nodup ↔ (places.filter fun p => (t.definedAt p).isEmpty).Nodup) := by
  obtain ⟨c, done, merged, ended, listed, symbols⟩ := parseFile_merged parsed
  rw [listed, symbols]
  intro files places
  have readable : ∀ f ∈ files, ∃ text, t.readText f = .ok text := merged_reads merged
  have names : c.symbols.names.Perm (places.flatMap t.definedAt) := by
    have same : places.flatMap t.definedAt = files.flatMap (t.library importDirs).defined := by
      rw [List.flatMap_map]
      refine List.flatMap_congr fun f member => ?_
      obtain ⟨text, read⟩ := readable f member
      exact (library_defined read).symm
    exact same ▸ merged.names
  have distinct : c.symbols.names.Nodup := merged.apart.of_append_right
  have counted (p : Place) (some : t.definedAt p ≠ []) : places.count p ≤ 1 :=
    count_le_one (names.nodup_iff.mp distinct) some
  refine ⟨merged.breadthFirst ended, merged.complete ended, fun f member => ?_, distinct, names,
    counted, nodup_filter_exact fun p some => counted p ?_⟩
  · obtain ⟨text, read⟩ := readable f member
    exact ⟨text, read, readText_place read⟩
  · simpa using some

def filed (path text : String) : Place × Entry :=
  (Path.pieces path.toList, .file (Bson.textBytes text))

-- Two files find a third one in an import directory, and it finds itself there.
def shared : FileTree where
  entries := [filed "w/a.idl" "imports = [\"b.idl\", \"c.idl\"]; struct first \x7b \x7d",
    filed "w/b.idl" "imports = [\"c.idl\"]; struct second \x7b \x7d",
    filed "w/lib/c.idl" "imports = [\"c.idl\"]; struct third \x7b \x7d",
    (["w", "lib"], .directory), (["w"], .directory)]
  home := ["w"]

theorem imports_merge_once_shared :
    ∃ spec, shared.parseFile ["lib"] "a.idl" = .ok spec ∧
      spec.mergedFiles = ["b.idl", "lib/c.idl"] ∧
      spec.symbols.names.Perm ["first", "second", "third"] ∧
      (["a.idl", "b.idl", "lib/c.idl"].map (Path.resolve ["w"])).Nodup := by
  have read : (shared.parseFile ["lib"] "a.idl").toOption.map (·.mergedFiles) =
      some ["b.idl", "lib/c.idl"] := by
    decide +kernel
  have defined : (["a.idl", "b.idl", "lib/c.idl"].map (Path.resolve shared.home)).map
      shared.definedAt = [["first"], ["second"], ["third"]] := by
    decide +kernel
  cases parsed : shared.parseFile ["lib"] "a.idl" with
  | error e => simp [parsed, Except.toOption] at read
  | ok spec =>
    have listed : spec.mergedFiles = ["b.idl", "lib/c.idl"] := by
      simpa [parsed, Except.toOption] using read
    obtain ⟨-, -, -, -, names, -, once⟩ := imports_merge_once parsed
    rw [listed] at names once
    rw [List.flatMap_def, defined] at names
    refine ⟨spec, rfl, listed, names, once.mpr ?_⟩
    -- Every file defines something.
    rw [List.filter_eq_nil_iff.mpr]
    · exact List.nodup_nil
    · intro p member
      have among := List.mem_map_of_mem (f := shared.definedAt) member
      rw [defined] at among
      intro empty
      rw [List.isEmpty_iff.mp empty] at among
      simp at among

-- Two spellings of a file that defines nothing.
def spelledTwice : FileTree where
  entries := [filed "a.idl" "imports = [\"./b.idl\", \"b.idl\"];", filed "b.idl" ""]

theorem spelled_twice :
    (spelledTwice.parseFile [] "a.idl").toOption.map (·.mergedFiles) = some ["./b.idl", "b.idl"] ∧
      Path.resolve spelledTwice.home "./b.idl" = Path.resolve spelledTwice.home "b.idl" := by
  decide +kernel

end

end WireSchema.Files.FileTree
