import WireSchema.Files.Output
import WireSchema.Proofs.Files.Places

namespace WireSchema.Path

inductive Above : String → String → Prop where
  | self {path : String} : Above path path
  | parent {path parent above : String} (up : parent? path = some parent)
      (further : Above parent above) : Above path above

end WireSchema.Path

namespace WireSchema.Files.FileTree

-- When the move of the second file fails, the first is in place already and is removed again, and
-- with it what stood there before.

-- What is at a place stays there, and where nothing is, at most a directory comes.
def Keeps (way : Place → Prop) (t u : FileTree) (p : Place) : Prop :=
  u.entry? p = t.entry? p ∨ t.entry? p = none ∧ u.entry? p = some .directory ∧ way p

structure Grown (way : Place → Prop) (t u : FileTree) : Prop where
  home : u.home = t.home
  keeps : ∀ p, Keeps way t u p

structure Holding (way : Place → Prop) (temporaries : List Place) (t u : FileTree) : Prop where
  home : u.home = t.home
  fresh : ∀ p ∈ temporaries, p ≠ [] ∧ t.entry? p = none
  keeps : ∀ p, p ∉ temporaries → Keeps way t u p

section

variable {way : Place → Prop} {t u v : FileTree} {p : Place} {path : String} {e : FileError}
  {temporaries : List Place}

theorem Keeps.trans (first : Keeps way t u p) (second : Keeps way u v p) : Keeps way t v p := by
  rcases first with same | ⟨absent, made, here⟩
  · unfold Keeps
    rwa [← same]
  · rcases second with same | ⟨absent', -, -⟩
    · exact .inr ⟨absent, same.trans made, here⟩
    · cases made.symm.trans absent'

theorem Keeps.absent (keeps : Keeps way t u p) (absent : u.entry? p = none) :
    t.entry? p = none := by
  rcases keeps with same | ⟨before, -, -⟩
  · exact same ▸ absent
  · exact before

theorem Grown.refl (t : FileTree) : Grown way t t :=
  ⟨rfl, fun _ => .inl rfl⟩

theorem Grown.trans (first : Grown way t u) (second : Grown way u v) : Grown way t v :=
  ⟨second.home.trans first.home, fun p => (first.keeps p).trans (second.keeps p)⟩

theorem makeDirectory_grown (here : way (Path.resolve t.home path))
    (made : t.makeDirectory path = .ok u) : Grown way t u := by
  obtain ⟨p, led, absent, rfl⟩ := makeDirectory_ok made
  refine ⟨rfl, fun q => ?_⟩
  by_cases same : q = p
  · subst same
    have proper : q ≠ [] := by
      rintro rfl
      cases absent
    exact .inr ⟨absent, put_here proper, locate_resolve led ▸ here⟩
  · exact .inl (put_elsewhere same)

-- The induction is on how many directories may still be made, each above the one before.
theorem makeDirectoriesWithin_grown (depth : Nat)
    (on : ∀ above, Path.Above path above → way (Path.resolve t.home above)) :
    Grown way t (makeDirectoriesWithin depth t path).2 := by
  induction depth generalizing t path with
  | zero => exact .refl t
  | succ depth ih =>
    rw [makeDirectoriesWithin]
    split
    · exact .refl t
    dsimp only
    split
    · rename_i u made
      exact makeDirectory_grown (on path .self) made
    · have parents : Grown way t
          (makeDirectoriesWithin depth t ((Path.parent? path).getD "")).2 := by
        cases up : Path.parent? path with
        | none =>
          cases depth with
          | zero => exact .refl t
          | succ depth => exact .refl t
        | some parent => exact ih fun above further => on above (.parent up further)
      split
      · rename_i stopped
        rwa [stopped] at parents
      · rename_i u ran
        rw [ran] at parents
        split
        · rename_i v made
          exact parents.trans (makeDirectory_grown (parents.home ▸ on path .self) made)
        · exact parents
    · exact .refl t

theorem makeDirectories_grown
    (on : ∀ above, Path.Above path above → way (Path.resolve t.home above)) :
    Grown way t (t.makeDirectories path).2 :=
  makeDirectoriesWithin_grown _ on

theorem Holding.start (t : FileTree) : Holding way [] t t :=
  ⟨rfl, by simp, fun _ _ => .inl rfl⟩

theorem Holding.grow (holding : Holding way temporaries t u) (grown : Grown way u v) :
    Holding way temporaries t v :=
  ⟨grown.home.trans holding.home, holding.fresh,
    fun p other => (holding.keeps p other).trans (grown.keeps p)⟩

theorem Holding.put (holding : Holding way temporaries t u) (proper : p ≠ [])
    (absent : u.entry? p = none) (e : Entry) : Holding way (p :: temporaries) t (u.put p e) := by
  refine ⟨holding.home, ?_, ?_⟩
  · refine List.forall_mem_cons.mpr ⟨⟨proper, ?_⟩, holding.fresh⟩
    by_cases old : p ∈ temporaries
    · exact (holding.fresh p old).2
    · exact (holding.keeps p old).absent absent
  · intro q other
    obtain ⟨apart, others⟩ := not_or.mp (mt List.mem_cons.mpr other)
    unfold Keeps
    rw [put_elsewhere apart]
    exact holding.keeps q others

theorem Holding.erase (holding : Holding way temporaries t u) (among : p ∈ temporaries) :
    Holding way temporaries t (u.erase p) := by
  refine ⟨holding.home, holding.fresh, fun q other => ?_⟩
  have apart : q ≠ p := fun same => other (same ▸ among)
  unfold Keeps
  rw [erase_elsewhere apart]
  exact holding.keeps q other

theorem Holding.clear (holding : Holding way temporaries t u)
    (gone : ∀ p ∈ temporaries, u.entry? p = none) : Grown way t u := by
  refine ⟨holding.home, fun p => ?_⟩
  by_cases among : p ∈ temporaries
  · exact .inl ((gone p among).trans (holding.fresh p among).2.symm)
  · exact holding.keeps p among

end

section

variable {temporary : Temporaries} {way : Place → Prop} {t u v w after : FileTree}
  {p q header source : Place} {path headerPath sourcePath : String} {bytes : List UInt8}
  {code : Emit.Generated} {e : FileError}

def OnTheWay (t : FileTree) (path : String) (p : Place) : Prop :=
  ∃ above, Path.Above (stagingDirectory path) above ∧ p = Path.resolve t.home above

theorem stage_error (on : ∀ p, t.OnTheWay path p → way p)
    (failed : t.stage temporary path bytes = (.error e, u)) : Grown way t u := by
  have grown : Grown way t (t.makeDirectories (stagingDirectory path)).2 :=
    makeDirectories_grown fun above further => on _ ⟨above, further, rfl⟩
  unfold stage at failed
  split at failed
  · rename_i stopped
    rw [stopped] at grown
    cases failed
    exact grown
  · rename_i made
    rw [made] at grown
    split at failed
    · cases failed
      exact grown
    · split at failed
      · cases failed
        exact grown
      · cases failed

def GivesNew (temporary : Temporaries) : Prop :=
  ∀ t directory name, temporary t directory = .ok name → t.entry? (directory ++ [name]) = none

theorem stage_ok (fresh : GivesNew temporary) (on : ∀ p, t.OnTheWay path p → way p)
    (staged : t.stage temporary path bytes = (.ok p, u)) :
    ∃ grown, Grown way t grown ∧ p ≠ [] ∧ grown.entry? p = none ∧
      u = grown.put p (.file bytes) := by
  have grown : Grown way t (t.makeDirectories (stagingDirectory path)).2 :=
    makeDirectories_grown fun above further => on _ ⟨above, further, rfl⟩
  unfold stage at staged
  split at staged
  · cases staged
  · rename_i made
    rw [made] at grown
    split at staged
    · cases staged
    · split at staged
      · cases staged
      · rename_i directory _ name given
        cases staged
        exact ⟨_, grown, by simp, fresh _ _ _ given, rfl⟩

theorem rename_ok (moved : t.rename p path = .ok u) :
    ∃ bytes q, t.entry? p = some (.file bytes) ∧ (t.erase p).locate path = .ok q ∧ q ≠ [] ∧
      entry? (t.erase p) q ≠ some .directory ∧ u = (t.erase p).put q (.file bytes) := by
  unfold rename at moved
  split at moved
  · rename_i bytes found
    obtain ⟨q, led, proper, free, rfl⟩ := place_ok moved
    exact ⟨bytes, q, found, led, proper, free, rfl⟩
  · cases moved

theorem removeFile_file (led : t.locate path = .ok p) (found : t.entry? p = some (.file bytes)) :
    t.removeFile path = t.erase p := by
  unfold removeFile
  simp only [led, found]

theorem onTheWay_home (home : u.home = t.home) (on : u.OnTheWay path p) : t.OnTheWay path p := by
  unfold OnTheWay at on
  rwa [home] at on

def OnOneWay (t : FileTree) (headerPath sourcePath : String) (p : Place) : Prop :=
  t.OnTheWay headerPath p ∨ t.OnTheWay sourcePath p

theorem header_way (sourcePath : String) (p : Place) (on : t.OnTheWay headerPath p) :
    t.OnOneWay headerPath sourcePath p :=
  .inl on

theorem source_way (headerPath : String) (home : u.home = t.home) (p : Place)
    (on : u.OnTheWay sourcePath p) : t.OnOneWay headerPath sourcePath p :=
  .inr (onTheWay_home home on)

def headerMoved? (temporary : Temporaries) (t : FileTree) (headerPath sourcePath : String)
    (code : Emit.Generated) : Option FileTree :=
  match t.stage temporary headerPath (Bson.textBytes code.header) with
  | (.error _, _) => none
  | (.ok header, t) =>
    match t.stage temporary sourcePath (Bson.textBytes code.source) with
    | (.error _, _) => none
    | (.ok _, t) => (t.rename header headerPath).toOption

theorem header_holding (fresh : GivesNew temporary)
    (first : t.stage temporary headerPath bytes = (.ok header, u)) :
    Holding (t.OnOneWay headerPath sourcePath) [header] t u := by
  obtain ⟨grown, grew, proper, absent, rfl⟩ := stage_ok fresh (header_way sourcePath) first
  exact ((Holding.start t).grow grew).put proper absent _

theorem source_holding (fresh : GivesNew temporary)
    (holding : Holding (t.OnOneWay headerPath sourcePath) [header] t u)
    (second : u.stage temporary sourcePath bytes = (.ok source, v)) :
    Holding (t.OnOneWay headerPath sourcePath) [source, header] t v := by
  obtain ⟨grown, grew, proper, absent, rfl⟩ :=
    stage_ok fresh (source_way headerPath holding.home) second
  exact (holding.grow grew).put proper absent _

theorem cleared (holding : Holding way [source, header] t v) :
    Grown way t ((v.erase header).erase source) := by
  have erased := (holding.erase (p := header) (by simp)).erase (p := source) (by simp)
  refine erased.clear fun p among => ?_
  by_cases last : p = source
  · rw [last]
    exact erase_here (holding.fresh source (by simp)).1
  · have first : p = header := by simpa [last] using among
    rw [erase_elsewhere last, first]
    exact erase_here (holding.fresh header (by simp)).1

theorem failed_unmoved (fresh : GivesNew temporary)
    (failed : t.writeBoth temporary headerPath sourcePath code = (.error e, after))
    (unmoved : t.headerMoved? temporary headerPath sourcePath code = none) :
    Grown (t.OnOneWay headerPath sourcePath) t after := by
  unfold headerMoved? at unmoved
  unfold writeBoth at failed
  split at failed
  · rename_i first
    cases failed
    exact stage_error (header_way sourcePath) first
  rename_i header u first
  have holding : Holding (t.OnOneWay headerPath sourcePath) _ _ _ := header_holding fresh first
  simp only [first] at unmoved
  split at failed
  · rename_i v second
    cases failed
    have grew : Grown (t.OnOneWay headerPath sourcePath) u v :=
      stage_error (source_way headerPath holding.home) second
    refine ((holding.grow grew).erase (by simp)).clear fun p among => ?_
    rw [List.mem_singleton.mp among]
    exact erase_here (holding.fresh header (by simp)).1
  rename_i source v second
  simp only [second] at unmoved
  split at failed
  · cases failed
    exact cleared (source_holding fresh holding second)
  · rename_i moved
    rw [moved] at unmoved
    cases unmoved

theorem failed_moved (fresh : GivesNew temporary)
    (failed : t.writeBoth temporary headerPath sourcePath code = (.error e, after))
    (moved : (t.headerMoved? temporary headerPath sourcePath code).isSome) :
    let place := Path.resolve t.home headerPath
    t.entry? place ≠ some .directory ∧ after.entry? place = none ∧
      ∀ p, p ≠ place → Keeps (t.OnOneWay headerPath sourcePath) t after p := by
  unfold headerMoved? at moved
  unfold writeBoth at failed
  split at failed
  · rename_i first
    simp [first] at moved
  rename_i header u first
  have holding : Holding (t.OnOneWay headerPath sourcePath) _ _ _ := header_holding fresh first
  simp only [first] at moved
  split at failed
  · rename_i second
    simp [second] at moved
  rename_i source v second
  have holding := source_holding fresh holding second
  simp only [second] at moved
  split at failed
  · rename_i unmoved
    rw [unmoved] at moved
    cases moved
  rename_i w here
  split at failed
  swap
  · cases failed
  cases failed
  obtain ⟨bytes, q, -, led, proper, free, rfl⟩ := rename_ok here
  have grown := cleared holding
  have place : Path.resolve t.home headerPath = q := by
    rw [locate_resolve led, home_erase, holding.home]
  -- What the header's path leads to is the same before and after the move.
  have found : ((v.erase header).put q (.file bytes)).locate headerPath = .ok q := by
    refine locate_mono home_put (fun r directory => ?_) led
    have other : r ≠ q := fun same => free (same ▸ directory)
    rwa [put_elsewhere other]
  rw [removeFile_file found (put_here proper), place]
  have agrees (p : Place) (other : p ≠ q) :
      entry? ((((v.erase header).put q (.file bytes)).erase q).erase source) p =
        entry? ((v.erase header).erase source) p := by
    by_cases last : p = source
    · rw [last, erase_here (holding.fresh source (by simp)).1,
        erase_here (holding.fresh source (by simp)).1]
    · rw [erase_elsewhere last, erase_elsewhere other, put_elsewhere other, erase_elsewhere last]
  refine ⟨?_, ?_, ?_⟩
  · intro directory
    have kept : entry? ((v.erase header).erase source) q = some .directory := by
      rcases grown.keeps q with same | ⟨absent, -, -⟩
      · exact same.trans directory
      · cases directory.symm.trans absent
    by_cases last : q = source
    · rw [last, erase_here (holding.fresh source (by simp)).1] at kept
      cases kept
    · rw [erase_elsewhere last] at kept
      exact free kept
  · by_cases last : q = source
    · rw [last]
      exact erase_here (holding.fresh source (by simp)).1
    · rw [erase_elsewhere last]
      exact erase_here proper
  · intro p other
    unfold Keeps
    rw [agrees p other]
    exact grown.keeps p

theorem longest_start {names : List String} (n : Nat) :
    n ≤ names.foldl (fun n name => max n name.length) n := by
  induction names generalizing n with
  | nil => exact Nat.le_refl n
  | cons first rest ih => exact Nat.le_trans (Nat.le_max_left ..) (ih _)

theorem le_longest {names : List String} {name : String} (member : name ∈ names) (n : Nat) :
    name.length ≤ names.foldl (fun n name => max n name.length) n := by
  induction names generalizing n with
  | nil => cases member
  | cons first rest ih =>
    rcases List.mem_cons.mp member with rfl | later
    · exact Nat.le_trans (Nat.le_max_right ..) (longest_start _)
    · exact ih later _

theorem unusedName_new (paths : List String) :
    GivesNew fun t _ => .ok (t.unusedName paths) := by
  intro t directory name given
  cases given
  by_contra there
  rw [ entry?, if_neg (by simp), ← ne_eq, Option.ne_none_iff_exists'] at there
  obtain ⟨e, found⟩ := there
  obtain ⟨before, behind, parts, -⟩ := List.lookup_eq_some_iff.mp found
  have listed : t.unusedName paths ∈ paths ++ t.home ++ t.entries.flatMap (·.1) := by
    rw [parts]
    simp
  have short := le_longest listed 0
  rw [unusedName, String.length_ofList, List.length_replicate] at short
  exact Nat.not_succ_le_self _ short

end

-- Whatever temporary files are like and whenever they cannot be had. All that a write that failed can
-- do to a place where something was is to leave nothing at the header's, and it does so exactly if
-- the source alone could not be moved.
theorem failed_write_keeps {temporary : Temporaries} (fresh : GivesNew temporary)
    {t after : FileTree} {target : Target} {code : Emit.Generated} {e : FileError}
    (failed : t.writeBoth temporary target.headerPath target.sourcePath code = (.error e, after)) :
    let way := t.OnOneWay target.headerPath target.sourcePath
    let moved := t.headerMoved? temporary target.headerPath target.sourcePath code
    let place := Path.resolve t.home target.headerPath
    (moved = none → ∀ p, Keeps way t after p) ∧
    (moved.isSome → t.entry? place ≠ some .directory ∧ after.entry? place = none ∧
      ∀ p, p ≠ place → Keeps way t after p) ∧
    ∀ p bytes, after.entry? p = some (.file bytes) → t.entry? p = some (.file bytes) := by
  intro way moved place
  refine ⟨fun unmoved => (failed_unmoved fresh failed unmoved).keeps,
    failed_moved fresh failed, ?_⟩
  intro p bytes found
  have kept (keeps : Keeps way t after p) : t.entry? p = some (.file bytes) := by
    rcases keeps with same | ⟨-, made, -⟩
    · exact same ▸ found
    · cases made.symm.trans found
  cases reached : moved with
  | none => exact kept ((failed_unmoved fresh failed reached).keeps p)
  | some w =>
    obtain ⟨-, gone, keeps⟩ := failed_moved fresh failed (reached ▸ rfl : moved.isSome)
    refine kept (keeps p fun same => ?_)
    rw [same, gone] at found
    cases found

section

def olderHeader : FileTree where
  entries := [(["gen"], .directory), (["gen", "colors.rs"], .file [111, 108, 100]),
    (["colors.rs"], .directory)]

def colors : Target :=
  { input := "colors.idl", header := "gen/colors.rs", source := "lib/../colors.rs" }

def texts : Emit.Generated := ⟨"pub enum Color \x7b\x7d\n", "include!(\"gen/colors.rs\");\n"⟩

theorem failed_write_keeps_colors :
    let after := (olderHeader.writeGenerated colors texts).2
    olderHeader.writeGenerated colors texts = (.error .isDirectory, after) ∧
      (∀ p bytes, after.entry? p = some (.file bytes) → olderHeader.entry? p = some (.file bytes)) ∧
      after.entry? ["gen", "colors.rs"] = none ∧ after.entry? ["lib"] = some .directory ∧
      ∀ p, p ≠ ["gen", "colors.rs"] →
        Keeps (olderHeader.OnOneWay colors.headerPath colors.sourcePath) olderHeader after p := by
  intro after
  have failed : olderHeader.writeGenerated colors texts = (.error .isDirectory, after) :=
    Prod.ext (by decide +kernel) rfl
  have fresh := unusedName_new [colors.headerPath, colors.sourcePath]
  obtain ⟨-, moved, files⟩ := failed_write_keeps fresh failed
  obtain ⟨-, gone, keeps⟩ := moved (by decide +kernel)
  have place : Path.resolve olderHeader.home colors.headerPath = ["gen", "colors.rs"] := by
    decide +kernel
  rw [place] at gone keeps
  exact ⟨failed, files, gone, by decide +kernel, keeps⟩

-- The source's place is that of the header's directory, and nothing is there to begin with.
def nested : Target :=
  { input := "colors.idl", header := "colors.rs/header.rs", source := "colors.rs" }

-- An older header does not outlive the failure, and a directory is left where the source should go.
theorem outputs_changed :
    let after := (olderHeader.writeGenerated colors texts).2
    let made := (FileTree.writeGenerated {} nested texts).2
    ((olderHeader.writeGenerated colors texts).1 = .error .isDirectory ∧
      olderHeader.find colors.headerPath = .ok (.file [111, 108, 100]) ∧
      after.find colors.headerPath = .error .notFound) ∧
    (FileTree.writeGenerated {} nested texts).1 = .error .isDirectory ∧
      FileTree.find {} nested.sourcePath = .error .notFound ∧
      made.find nested.sourcePath = .ok .directory := by
  decide +kernel

end

end WireSchema.Files.FileTree
