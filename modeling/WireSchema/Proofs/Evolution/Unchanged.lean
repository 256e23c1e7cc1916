import WireSchema.Proofs.Evolution.Commands
import WireSchema.Proofs.Evolution.Diagonal

namespace WireSchema.Evolution

open Schema (FieldDef Resolved ResolvedRef StructDef SymbolTable TypeRef builtinLocation fieldAt)

def versionedCommands (files : List SchemaFile) : List LocatedCommand :=
  (definedCommands files).filter (!·.command.apiVersion.isEmpty)

inductive Origin (c : LocatedCommand) : Direction → StructDef → Prop where
  | parameters : Origin c .parameter c.command.base
  | element {r : ResolvedRef} {s : StructDef} (typed : c.command.namespaceRule = .typed)
      (resolved : c.commandType = .ok r) (target : .struct s ∈ targets r) : Origin c .commandType s
  | reply {s : StructDef} (resolved : c.reply = .ok (some s)) : Origin c .reply s

-- Files that can be compared at all: versions are known, names differ, types resolve, and nothing
-- takes values of any wire type unless it is listed.
structure Consistent (files : List SchemaFile) : Prop where
  versions : ∀ c ∈ versionedCommands files, c.command.apiVersion = "1"
  names : ((versionedCommands files).map (·.command.commandName)).Nodup
  structs : ∀ f ∈ files, ∀ s ∈ f.spec.symbols.structs, Clear f.spec.symbols s
  parameters : ∀ c ∈ versionedCommands files, Clear c.side.symbols c.command.base
  elements : ∀ c ∈ versionedCommands files, c.command.namespaceRule = .typed →
    ∃ r, c.commandType = .ok r ∧ OneStruct r ∧
      Listed .commandType c.command.commandName c.command.commandName r
  replies : ∀ c ∈ versionedCommands files, ∃ reply, c.reply = .ok reply
  listed : ∀ c ∈ versionedCommands files, ∀ d s, Origin c d s →
    AnyListed c.side.symbols d c.command.commandName s
  errorReply : ∀ side s, errorReply? files = some (side, s) →
    AnyListed side.symbols .reply noCommand s

section

variable {files : List SchemaFile} {c : LocatedCommand} {l : Ledger} {d : Direction}

theorem versionedCommands_file (member : c ∈ versionedCommands files) :
    ∃ f ∈ files, f.side = c.side := by
  obtain ⟨defined, _⟩ := List.mem_filter.mp member
  obtain ⟨f, there, inside⟩ := List.mem_flatMap.mp defined
  obtain ⟨_, _, rfl⟩ := List.mem_map.mp inside
  exact ⟨f, there, rfl⟩

theorem reply_known {s : StructDef} (resolved : c.reply = .ok (some s)) :
    s ∈ c.side.symbols.structs := by
  unfold LocatedCommand.reply at resolved
  cases declared : c.command.replyType with
  | none => simp [declared] at resolved
  | some name =>
    cases found : c.side.symbols.struct? name with
    | none => simp [declared, found] at resolved
    | some t =>
      simp only [declared, found, Except.ok.injEq, Option.some.injEq] at resolved
      subst t
      exact List.mem_of_find?_eq_some found

theorem Consistent.known (consistent : Consistent files) (member : c ∈ versionedCommands files) :
    ∀ s ∈ c.side.symbols.structs, Clear c.side.symbols s := by
  obtain ⟨f, there, same⟩ := versionedCommands_file member
  rw [← same]
  exact consistent.structs f there

theorem Consistent.settled (consistent : Consistent files) (member : c ∈ versionedCommands files)
    {root : Site} (start : Root c c d root) : Settled c.side d c.command.commandName root := by
  cases start with
  | parameters =>
    exact .structs (consistent.parameters c member) (consistent.listed c member _ _ .parameters)
  | element typed _ resolved again =>
    cases resolved.symm.trans again
    obtain ⟨r, known, single, listed⟩ := consistent.elements c member typed
    cases resolved.symm.trans known
    obtain ⟨type, declared⟩ := commandType_resolved resolved
    refine .types declared single listed fun s target => ?_
    exact consistent.listed c member _ s (.element typed resolved target)
  | replies resolved again =>
    cases resolved.symm.trans again
    exact .structs (consistent.known member _ (reply_known resolved))
      (consistent.listed c member _ _ (.reply resolved))

theorem namespace_unchanged : ¬NamespaceBroken c c := by
  unfold NamespaceBroken
  cases c.command.namespaceRule <;> simp

theorem Consistent.unbroken (consistent : Consistent files) (member : c ∈ versionedCommands files)
    {e : Incompatibility} : ¬Broken c c d e := by
  intro broken
  cases broken with
  | reached start path faulty =>
    have settled := (consistent.settled member start).reached (consistent.known member) path
    exact settled.quiet e faulty
  | namespaceRule changed => exact namespace_unchanged changed

theorem Consistent.resolvable (consistent : Consistent files)
    (member : c ∈ versionedCommands files) : Resolvable c c := by
  have element (typed : c.command.namespaceRule = .typed) : ∃ r, c.commandType = .ok r := by
    obtain ⟨r, resolved, _⟩ := consistent.elements c member typed
    exact ⟨r, resolved⟩
  exact {
    oldElement := element
    newElement := fun typed _ => element typed
    oldReply := consistent.replies c member
    newReply := consistent.replies c member }

theorem checkCommand_unchanged (consistent : Consistent files)
    (member : c ∈ versionedCommands files) :
    ∃ after, checkCommand l c c = (after, none) ∧ after.found = l.found := by
  have checked : checkCommand l c c = ((checkCommand l c c).1, none) :=
    Prod.ext rfl (checkCommand_complete.mpr (consistent.resolvable member))
  refine ⟨_, checked, (checkCommand_silent checked).mpr ?_⟩
  exact fun d e => consistent.unbroken member

theorem checkEach_unchanged (consistent : Consistent files) {known : NameMap LocatedCommand}
    {commands : List (String × LocatedCommand)}
    (each : ∀ entry ∈ commands,
      known.get? entry.1 = some entry.2 ∧ entry.2 ∈ versionedCommands files) :
    ∃ after, checkEach known l commands = .ok after ∧ after.found = l.found := by
  induction commands generalizing l with
  | nil => exact ⟨l, rfl, rfl⟩
  | cons entry rest ih =>
    obtain ⟨name, c⟩ := entry
    obtain ⟨there, member⟩ := each _ (List.mem_cons_self ..)
    obtain ⟨next, checked, kept⟩ := checkCommand_unchanged (l := l) consistent member
    obtain ⟨after, ran, same⟩ :=
      ih (l := next) fun entry later => each entry (List.mem_cons_of_mem _ later)
    refine ⟨after, ?_, same.trans kept⟩
    simp only [checkEach, there, checked]
    exact ran

def Indexed (known : NameMap LocatedCommand) (commands : List LocatedCommand) : Prop :=
  ∀ entry ∈ known.entries, known.get? entry.1 = some entry.2 ∧ entry.2 ∈ commands

theorem Indexed.insert {known : NameMap LocatedCommand} {commands : List LocatedCommand}
    (indexed : Indexed known commands) (fresh : known.get? c.command.commandName = none)
    (member : c ∈ commands) : Indexed (known.insert c.command.commandName c) commands := by
  intro entry there
  rw [NameMap.get?_insert]
  rcases NameMap.mem_insertEntry there with rfl | before
  · simpa using member
  · obtain ⟨found, known⟩ := indexed entry before
    have other : entry.1 ≠ c.command.commandName := by
      intro same
      rw [same, fresh] at found
      cases found
    simpa [other] using ⟨found, known⟩

-- Distinct commands are collected without a fault. Those that are to come are not yet known.
theorem collectCommand_run {commands coming : List LocatedCommand}
    {known : NameMap LocatedCommand} (indexed : Indexed known commands)
    (versions : ∀ c ∈ coming, c.command.apiVersion.isEmpty = false → c.command.apiVersion = "1")
    (within : ∀ c ∈ coming, c.command.apiVersion.isEmpty = false → c ∈ commands)
    (names : ((coming.filter (!·.command.apiVersion.isEmpty)).map (·.command.commandName)).Nodup)
    (fresh : ∀ c ∈ coming, c.command.apiVersion.isEmpty = false →
      known.get? c.command.commandName = none) :
    ∃ after, coming.foldl collectCommand ([], known) = ([], after) ∧ Indexed after commands := by
  induction coming generalizing known with
  | nil => exact ⟨known, rfl, indexed⟩
  | cons c rest ih =>
    have later {p : LocatedCommand → Prop} (all : ∀ x ∈ c :: rest, p x) : ∀ x ∈ rest, p x :=
      fun x inside => all x (List.mem_cons_of_mem _ inside)
    cases empty : c.command.apiVersion.isEmpty with
    | true =>
      rw [List.filter_cons_of_neg (by simp [empty])] at names
      simpa [collectCommand, empty] using
        ih indexed (later versions) (later within) names (later fresh)
    | false =>
      rw [List.filter_cons_of_pos (by simp [empty]), List.map_cons, List.nodup_cons] at names
      have here := List.mem_cons_self (a := c) (l := rest)
      have version := versions c here empty
      have unknown := fresh c here empty
      have next := indexed.insert unknown (within c here empty)
      have apart : ∀ x ∈ rest, x.command.apiVersion.isEmpty = false →
          (known.insert c.command.commandName c).get? x.command.commandName = none := by
        intro x inside versioned
        have other : x.command.commandName ≠ c.command.commandName := by
          intro same
          refine names.1 (same ▸ List.mem_map_of_mem ?_)
          exact List.mem_filter.mpr ⟨inside, by simp [versioned]⟩
        rw [NameMap.get?_insert, if_neg other]
        exact later fresh x inside versioned
      simpa [collectCommand, version, NameMap.contains, unknown] using
        ih next (later versions) (later within) names.2 apart

theorem collectCommands_consistent (consistent : Consistent files) :
    ∃ known, collectCommands files = ([], known) ∧ Indexed known (versionedCommands files) := by
  have versioned : ∀ c ∈ definedCommands files, c.command.apiVersion.isEmpty = false →
      c ∈ versionedCommands files :=
    fun c defined version => List.mem_filter.mpr ⟨defined, by simp [version]⟩
  refine collectCommand_run ?_ ?_ versioned consistent.names ?_
  · exact fun entry there => absurd there List.not_mem_nil
  · exact fun c defined version => consistent.versions c (versioned c defined version)
  · exact fun _ _ _ => rfl

theorem checkCommands_consistent (consistent : Consistent files) :
    checkCommands files files = .ok [] := by
  obtain ⟨known, collected, indexed⟩ := collectCommands_consistent consistent
  obtain ⟨after, ran, found⟩ :=
    checkEach_unchanged (l := { found := [] ++ [] }) consistent indexed
  simp only [checkCommands, collected]
  rw [ran]
  exact congrArg Except.ok found

theorem checkErrorReply_consistent (consistent : Consistent files) {side : Side} {s : StructDef}
    (found : errorReply? files = some (side, s)) (oldRoot newRoot : String) :
    checkErrorReply oldRoot newRoot files files = [] := by
  obtain ⟨f, there, inside⟩ := List.exists_of_findSome?_eq_some found
  obtain ⟨t, declared, same⟩ := Option.map_eq_some_iff.mp inside
  cases same
  have known : ∀ s ∈ f.side.symbols.structs, Clear f.side.symbols s := consistent.structs f there
  have settled : Settled f.side .reply noCommand (.structs s s) :=
    .structs (known s (List.mem_of_find?_eq_some declared)) (consistent.errorReply _ _ found)
  refine List.eq_nil_iff_forall_not_mem.mpr fun e reported => ?_
  simp only [checkErrorReply, found] at reported
  have start : (Site.structs s s).Known (unchanged noCommand f.side) := .structs
  rcases (walk_reached start (fun _ seen => absurd seen List.not_mem_nil)).mp reported with
    known | ⟨site, path, faulty⟩
  · exact List.not_mem_nil known
  · exact (settled.reached known path).quiet e faulty

theorem checkAll_unchanged (consistent : Consistent files) :
    checkCommands files files = .ok [] ∧
      ∀ oldRoot newRoot, (errorReply? files).isSome →
        checkErrorReply oldRoot newRoot files files = [] ∧
          checkAll oldRoot newRoot files files = .ok [] := by
  have commands := checkCommands_consistent consistent
  refine ⟨commands, fun oldRoot newRoot present => ?_⟩
  obtain ⟨⟨side, s⟩, found⟩ := Option.isSome_iff_exists.mp present
  have replies := checkErrorReply_consistent consistent found oldRoot newRoot
  refine ⟨replies, ?_⟩
  simp [checkAll, commands, replies, bind, Except.bind, pure, Except.pure]

end

-- Shelves hold books, and a book names its shelf or describes the place.
def shelf : StructDef :=
  { location := builtinLocation, name := "shelf"
    fields := [{ location := builtinLocation, name := "books", type := some (.array "book") }] }

def book : StructDef :=
  { location := builtinLocation, name := "book"
    fields := [
      { location := builtinLocation, name := "place"
        type := some (.variant [.single "string", .single "shelf"]) }] }

def failure : StructDef :=
  { location := builtinLocation, name := "ErrorReply"
    fields := [fieldAt builtinLocation "missing" "book"] }

def findBook : Schema.CommandDef :=
  { base := {
      location := builtinLocation, name := "find"
      fields := [
        fieldAt builtinLocation "hint" "anything", fieldAt builtinLocation "within" "shelf"] }
    commandName := "find", namespaceRule := .typed, commandType := some (.array "shelf")
    apiVersion := "1", replyType := some "book" }

def libraryTable : SymbolTable :=
  { commands := [findBook], structs := [shelf, book, failure]
    types := [{ location := builtinLocation, name := "anything", wireTypes := ["any"] }] }

def library : SchemaFile :=
  { path := "library.idl", spec := { symbols := libraryTable } }

def Kept (d : Direction) (command : String) (s : StructDef) : Prop :=
  ∀ f ∈ s.fields, ∃ type r, f.type = some type ∧ libraryTable.resolveRef type = .ok r ∧
    OneStruct r ∧ Listed d command f.name r ∧
    ∀ t, .struct t ∈ targets r → t ∈ libraryTable.structs

section

variable {d : Direction} {command : String} {root s : StructDef}

theorem structs_kept (known : s ∈ libraryTable.structs) : Kept d command s := by
  intro f member
  simp only [libraryTable, List.mem_cons, List.not_mem_nil, or_false] at known
  rcases known with rfl | rfl | rfl
  · cases List.mem_singleton.mp member
    exact ⟨_, .array (.struct book), rfl, rfl, by simp [OneStruct, targets],
      by simp [Listed, targets], by simp [targets, libraryTable]⟩
  · cases List.mem_singleton.mp member
    have fixed : isAny (Schema.builtinType "string" "String" "string") = false := rfl
    exact ⟨_, .variant [.type _, .struct shelf], rfl, rfl, by simp [OneStruct, targets],
      by simp [Listed, targets, fixed], by simp [targets, libraryTable]⟩
  · cases List.mem_singleton.mp member
    exact ⟨_, .single (.struct book), rfl, rfl, by simp [OneStruct, targets],
      by simp [Listed, targets], by simp [targets, libraryTable]⟩

theorem findBook_kept : Kept .parameter "find" findBook.base := by
  intro f member
  have listed : anyKey .parameter "find" "hint" ∈ mayStayAny := by decide
  simp only [findBook, List.mem_cons, List.not_mem_nil, or_false] at member
  rcases member with rfl | rfl
  · exact ⟨_, .single (.type _), rfl, rfl, by simp [OneStruct, targets],
      fun _ _ _ => listed, by simp [targets]⟩
  · exact ⟨_, .single (.struct shelf), rfl, rfl, by simp [OneStruct, targets],
      by simp [Listed, targets], by simp [targets, libraryTable]⟩

theorem Kept.contains (kept : Kept d command root) (inside : Contains libraryTable root s) :
    Kept d command s := by
  induction inside with
  | root => exact kept
  | field _ member typed resolved target ih =>
    obtain ⟨type, r, declared, there, _, _, known⟩ := ih _ member
    cases declared.symm.trans typed
    cases there.symm.trans resolved
    exact structs_kept (known _ target)

theorem Kept.anyListed (kept : Kept d command root) : AnyListed libraryTable d command root := by
  intro s inside f member type r typed resolved
  obtain ⟨type, r, declared, there, _, listed, _⟩ := kept.contains inside f member
  cases declared.symm.trans typed
  cases there.symm.trans resolved
  exact listed

theorem Kept.clear (kept : Kept d command s) (distinct : (s.fields.map (·.name)).Nodup) :
    Clear libraryTable s := by
  refine ⟨distinct, fun f member type typed => ?_⟩
  obtain ⟨type, r, declared, resolved, single, _⟩ := kept f member
  cases declared.symm.trans typed
  exact ⟨r, resolved, single⟩

end

theorem library_consistent : Consistent [library] where
  versions := by
    intro c member
    cases List.mem_singleton.mp member
    rfl
  names := by decide
  structs := by
    intro f there s known
    cases List.mem_singleton.mp there
    have kept : Kept .parameter "find" s := structs_kept known
    refine kept.clear ?_
    simp only [library, libraryTable, List.mem_cons, List.not_mem_nil, or_false] at known
    rcases known with rfl | rfl | rfl <;> decide
  parameters := by
    intro c member
    cases List.mem_singleton.mp member
    exact findBook_kept.clear (by decide)
  elements := by
    intro c member _
    cases List.mem_singleton.mp member
    exact ⟨.array (.struct shelf), rfl, by simp [OneStruct, targets], by simp [Listed, targets]⟩
  replies := by
    intro c member
    cases List.mem_singleton.mp member
    exact ⟨_, rfl⟩
  listed := by
    intro c member d s origin
    cases List.mem_singleton.mp member
    cases origin with
    | parameters => exact findBook_kept.anyListed
    | element _ resolved target =>
      cases resolved
      have reached : s = shelf := by simpa [targets] using target
      exact (structs_kept (by simp [reached, libraryTable])).anyListed
    | reply resolved => exact (structs_kept (reply_known resolved)).anyListed
  errorReply := by
    intro side s found
    cases found
    exact (structs_kept (by simp [libraryTable])).anyListed

theorem checkAll_unchanged_library :
    Consistent [library] ∧ checkCommands [library] [library] = .ok [] ∧
      checkAll "old" "new" [library] [library] = .ok [] := by
  obtain ⟨commands, replies⟩ := checkAll_unchanged library_consistent
  exact ⟨library_consistent, commands, (replies "old" "new" rfl).2⟩

end WireSchema.Evolution
