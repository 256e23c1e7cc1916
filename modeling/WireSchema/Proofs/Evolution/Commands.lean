import WireSchema.Evolution.Check
import WireSchema.Proofs.Evolution.Coverage

namespace WireSchema.Evolution

open Schema (NamespaceRule ResolvedRef StructDef builtinLocation fieldAt)

def pairing (old new : LocatedCommand) : Pairing :=
  { command := old.command.commandName, old := old.side, new := new.side }

inductive Root (old new : LocatedCommand) : Direction → Site → Prop where
  | parameters : Root old new .parameter (.structs old.command.base new.command.base)
  | element {r q : ResolvedRef} (oldTyped : old.command.namespaceRule = .typed)
      (newTyped : new.command.namespaceRule = .typed) (oldType : old.commandType = .ok r)
      (newType : new.commandType = .ok q) :
      Root old new .commandType (.types old.command.commandName r q)
  | replies {s t : StructDef} (oldReply : old.reply = .ok (some s))
      (newReply : new.reply = .ok (some t)) : Root old new .reply (.structs s t)

def NamespaceBroken (old new : LocatedCommand) : Prop :=
  match old.command.namespaceRule with
  | .ignored => new.command.namespaceRule ≠ .ignored
  | .collectionOrUuid =>
    new.command.namespaceRule ≠ .ignored ∧ new.command.namespaceRule ≠ .collectionOrUuid
  | .collection => new.command.namespaceRule = .typed
  | .typed =>
    new.command.namespaceRule ≠ .typed ∧ new.command.namespaceRule ≠ .ignored ∧
      ∀ r, old.commandType = .ok r → isNamespaceString r = false

def namespaceFault (old new : LocatedCommand) : Incompatibility :=
  { cause := .namespaceRule old.command.namespaceRule new.command.namespaceRule
    command := old.command.commandName, file := new.side.file }

inductive Broken (old new : LocatedCommand) : Direction → Incompatibility → Prop where
  | reached {d : Direction} {root site : Site} {e : Incompatibility} (start : Root old new d root)
      (path : Reached (pairing old new) d root site) (faulty : site.Faulty (pairing old new) d e) :
      Broken old new d e
  | namespaceRule (broken : NamespaceBroken old new) :
      Broken old new .commandType (namespaceFault old new)

structure Resolvable (old new : LocatedCommand) : Prop where
  oldElement : old.command.namespaceRule = .typed → ∃ r, old.commandType = .ok r
  newElement : old.command.namespaceRule = .typed → new.command.namespaceRule = .typed →
    ∃ q, new.commandType = .ok q
  oldReply : ∃ reply, old.reply = .ok reply
  newReply : ∃ reply, new.reply = .ok reply

section

variable {old new : LocatedCommand} {l : Ledger} {e : Incompatibility} {findings : List Finding}

theorem commandType_resolved {c : LocatedCommand} {r : ResolvedRef} (typed : c.commandType = .ok r) :
    ∃ type, c.side.symbols.resolveRef type = .ok r := by
  unfold LocatedCommand.commandType at typed
  cases declared : c.command.commandType with
  | none => simp [declared] at typed
  | some type =>
    cases resolved : c.side.symbols.resolveRef type with
    | error name => simp [declared, resolved] at typed
    | ok found =>
      simp only [declared, resolved, Except.ok.injEq] at typed
      subst found
      exact ⟨type, resolved⟩

theorem Root.known {d : Direction} {root : Site} (start : Root old new d root) :
    root.Known (pairing old new) := by
  cases start with
  | parameters => exact .structs
  | replies _ _ => exact .structs
  | element _ _ oldType newType =>
    obtain ⟨_, oldResolved⟩ := commandType_resolved oldType
    obtain ⟨_, newResolved⟩ := commandType_resolved newType
    exact .types oldResolved newResolved

theorem Root.unique {d : Direction} {root other : Site} (start : Root old new d root)
    (again : Root old new d other) : other = root := by
  cases start with
  | parameters =>
    cases again
    rfl
  | element _ _ oldType newType =>
    cases again with
    | element _ _ oldAgain newAgain =>
      rw [oldType] at oldAgain
      rw [newType] at newAgain
      cases oldAgain
      cases newAgain
      rfl
  | replies oldReply newReply =>
    cases again with
    | replies oldAgain newAgain =>
      rw [oldReply] at oldAgain
      rw [newReply] at newAgain
      cases oldAgain
      cases newAgain
      rfl

theorem walk_root {d : Direction} {root : Site} (start : Root old new d root)
    (kept : d = .commandType → ¬NamespaceBroken old new)
    (unentered : ∀ v ∈ l.visited, v.direction ≠ d) :
    e ∈ (walk (pairing old new) d l (root.findings (pairing old new) d)).found ↔
      e ∈ l.found ∨ Broken old new d e := by
  rw [walk_reached start.known unentered]
  refine or_congr_right ⟨?_, ?_⟩
  · intro parts
    obtain ⟨site, path, faulty⟩ := parts
    exact .reached start path faulty
  · intro broken
    cases broken with
    | reached again path faulty =>
      cases start.unique again
      exact ⟨_, path, faulty⟩
    | namespaceRule broken => exact absurd broken (kept rfl)

theorem parameters_exact (unentered : ∀ v ∈ l.visited, v.direction ≠ .parameter) :
    e ∈ (walk (pairing old new) .parameter l (compareStructs (pairing old new) .parameter
      old.command.base new.command.base)).found ↔ e ∈ l.found ∨ Broken old new .parameter e :=
  walk_root .parameters (fun same => absurd same (by decide)) unentered

theorem compareNamespaces_typed {p : Pairing} {r q : ResolvedRef}
    (oldTyped : old.command.namespaceRule = .typed) (newTyped : new.command.namespaceRule = .typed)
    (oldType : old.commandType = .ok r) (newType : new.commandType = .ok q) :
    compareNamespaces p old new =
      .ok ((Site.types old.command.commandName r q).findings p .commandType) := by
  simp [compareNamespaces, oldTyped, newTyped, oldType, newType, Site.findings, bind, Except.bind,
    pure, Except.pure]

theorem compareNamespaces_untyped {p : Pairing}
    (resolved : old.command.namespaceRule = .typed → ∃ r, old.commandType = .ok r)
    (untyped : ¬(old.command.namespaceRule = .typed ∧ new.command.namespaceRule = .typed)) :
    ∃ broken : Bool, (broken = true ↔ NamespaceBroken old new) ∧
      compareNamespaces p old new = .ok (onlyIf broken (p.fault
        (.namespaceRule old.command.namespaceRule new.command.namespaceRule))) := by
  unfold compareNamespaces NamespaceBroken
  cases oldRule : old.command.namespaceRule with
  | ignored => exact ⟨_, by simp, rfl⟩
  | collection => exact ⟨_, by simp, rfl⟩
  | collectionOrUuid => exact ⟨_, by simp, rfl⟩
  | typed =>
    obtain ⟨r, oldType⟩ := resolved oldRule
    have changed : new.command.namespaceRule ≠ .typed := fun newTyped => untyped ⟨oldRule, newTyped⟩
    refine ⟨!(isNamespaceString r || new.command.namespaceRule = .ignored), ?_, ?_⟩
    · simp [oldType, changed, and_comm]
    · simp [oldType, changed, bind, Except.bind, pure, Except.pure]

theorem compareNamespaces_resolved {p : Pairing} (oldTyped : old.command.namespaceRule = .typed)
    (compared : compareNamespaces p old new = .ok findings) :
    (∃ r, old.commandType = .ok r) ∧
      (new.command.namespaceRule = .typed → ∃ q, new.commandType = .ok q) := by
  unfold compareNamespaces at compared
  cases oldType : old.commandType with
  | error u => simp [oldTyped, oldType, bind, Except.bind] at compared
  | ok r =>
    refine ⟨⟨r, rfl⟩, fun newTyped => ?_⟩
    cases newType : new.commandType with
    | error u => simp [oldTyped, oldType, newTyped, newType, bind, Except.bind] at compared
    | ok q => exact ⟨q, rfl⟩

theorem compareNamespaces_ok {p : Pairing} (resolvable : Resolvable old new) :
    ∃ findings, compareNamespaces p old new = .ok findings := by
  by_cases typed : old.command.namespaceRule = .typed ∧ new.command.namespaceRule = .typed
  · obtain ⟨r, oldType⟩ := resolvable.oldElement typed.1
    obtain ⟨q, newType⟩ := resolvable.newElement typed.1 typed.2
    exact ⟨_, compareNamespaces_typed typed.1 typed.2 oldType newType⟩
  · obtain ⟨_, _, compared⟩ := compareNamespaces_untyped resolvable.oldElement typed
    exact ⟨_, compared⟩

theorem element_exact (compared : compareNamespaces (pairing old new) old new = .ok findings)
    (unentered : ∀ v ∈ l.visited, v.direction ≠ .commandType) :
    e ∈ (walk (pairing old new) .commandType l findings).found ↔
      e ∈ l.found ∨ Broken old new .commandType e := by
  by_cases typed : old.command.namespaceRule = .typed ∧ new.command.namespaceRule = .typed
  · obtain ⟨⟨r, oldType⟩, resolved⟩ := compareNamespaces_resolved typed.1 compared
    obtain ⟨q, newType⟩ := resolved typed.2
    rw [compareNamespaces_typed typed.1 typed.2 oldType newType] at compared
    cases compared
    have kept : ¬NamespaceBroken old new := by simp [NamespaceBroken, typed]
    exact walk_root (.element typed.1 typed.2 oldType newType) (fun _ => kept) unentered
  · obtain ⟨broken, meaning, unchanged⟩ := compareNamespaces_untyped
      (fun oldTyped => (compareNamespaces_resolved oldTyped compared).1) typed
    rw [unchanged] at compared
    cases compared
    have located : Located (pairing old new) (onlyIf broken ((pairing old new).fault
        (.namespaceRule old.command.namespaceRule new.command.namespaceRule))) :=
      fun s t member => absurd member descend_onlyIf
    rw [walk_exact located]
    refine or_congr_right ⟨?_, ?_⟩
    · intro exposes
      cases broken with
      | false => exact absurd exposes exposes_nil
      | true =>
        cases exposes_fault.mp exposes
        exact .namespaceRule (meaning.mp rfl)
    · intro fault
      cases fault with
      | reached start _ _ =>
        cases start with
        | element oldTyped newTyped _ _ => exact absurd ⟨oldTyped, newTyped⟩ typed
      | namespaceRule changed =>
        cases meaning.mpr changed
        exact exposes_fault.mpr rfl

theorem compareReplyTypes_exact {p : Pairing} :
    compareReplyTypes p old new = .ok findings ↔
      ∃ oldReply newReply, old.reply = .ok oldReply ∧ new.reply = .ok newReply ∧
        findings = match oldReply, newReply with
          | some s, some t => compareStructs p .reply s t
          | _, _ => [] := by
  constructor
  · intro compared
    obtain ⟨oldReply, oldKnown, compared⟩ := bind_ok_exact.mp compared
    obtain ⟨newReply, newKnown, compared⟩ := bind_ok_exact.mp compared
    refine ⟨oldReply, newReply, oldKnown, newKnown, ?_⟩
    cases oldReply <;> cases newReply <;> cases compared <;> rfl
  · intro parts
    obtain ⟨oldReply, newReply, oldKnown, newKnown, rfl⟩ := parts
    refine bind_ok_exact.mpr ⟨oldReply, oldKnown, bind_ok_exact.mpr ⟨newReply, newKnown, ?_⟩⟩
    cases oldReply <;> cases newReply <;> rfl

theorem replies_exact (compared : compareReplyTypes (pairing old new) old new = .ok findings)
    (unentered : ∀ v ∈ l.visited, v.direction ≠ .reply) :
    e ∈ (walk (pairing old new) .reply l findings).found ↔
      e ∈ l.found ∨ Broken old new .reply e := by
  obtain ⟨oldReply, newReply, oldKnown, newKnown, rfl⟩ := compareReplyTypes_exact.mp compared
  have noReply (missing : oldReply = none ∨ newReply = none) : ¬Broken old new .reply e := by
    intro broken
    cases broken with
    | reached start _ _ =>
      cases start with
      | replies oldThere newThere =>
        rw [oldKnown] at oldThere
        rw [newKnown] at newThere
        cases oldThere
        cases newThere
        simp at missing
  cases oldReply with
  | none => simp [walk, noReply]
  | some s =>
    cases newReply with
    | none => simp [walk, noReply]
    | some t =>
      exact walk_root (.replies oldKnown newKnown) (fun same => absurd same (by decide)) unentered

theorem checkCommand_after : checkCommand l old new =
    ((checkCommand {} old new).1.after l.found, (checkCommand {} old new).2) := by
  have fresh : l.startCommand = ({} : Ledger).startCommand.after l.found := by
    simp [Ledger.startCommand, Ledger.after]
  simp only [checkCommand, fresh, walk_after]
  cases compareNamespaces _ old new with
  | error u => rfl
  | ok elements =>
    cases compareReplyTypes _ old new with
    | error u => rfl
    | ok replies => rfl

theorem checkCommand_parts {after : Ledger} :
    checkCommand l old new = (after, none) ↔ ∃ elements replies,
      compareNamespaces (pairing old new) old new = .ok elements ∧
      compareReplyTypes (pairing old new) old new = .ok replies ∧
      after = walk (pairing old new) .reply (walk (pairing old new) .commandType
        (walk (pairing old new) .parameter l.startCommand
          (compareStructs (pairing old new) .parameter old.command.base new.command.base))
        elements) replies := by
  simp only [checkCommand, pairing]
  cases compareNamespaces _ old new with
  | error u => simp
  | ok elements =>
    cases compareReplyTypes _ old new with
    | error u => simp
    | ok replies => simp [eq_comm]

-- One ledger serves three walks. None of them enters a pair in the direction of another.
theorem checkCommand_broken {after : Ledger} (checked : checkCommand l old new = (after, none)) :
    e ∈ after.found ↔ e ∈ l.found ∨ ∃ d, Broken old new d e := by
  obtain ⟨elements, replies, compared, answered, rfl⟩ := checkCommand_parts.mp checked
  have parameters : ∀ v ∈ (walk (pairing old new) .parameter l.startCommand (compareStructs
      (pairing old new) .parameter old.command.base new.command.base)).visited,
      v.direction = .parameter :=
    fun v seen => (walk_visited v seen).resolve_left List.not_mem_nil
  rw [replies_exact answered, element_exact compared, parameters_exact]
  · constructor
    · intro either
      rcases either with ((known | broken) | broken) | broken
      · exact .inl known
      · exact .inr ⟨_, broken⟩
      · exact .inr ⟨_, broken⟩
      · exact .inr ⟨_, broken⟩
    · intro either
      rcases either with known | ⟨d, broken⟩
      · exact .inl (.inl (.inl known))
      · cases d with
        | parameter => exact .inl (.inl (.inr broken))
        | commandType => exact .inl (.inr broken)
        | reply => exact .inr broken
  · exact fun _ seen => absurd seen List.not_mem_nil
  · intro v seen same
    cases (parameters v seen).symm.trans same
  · intro v seen same
    rcases walk_visited v seen with earlier | along
    · cases (parameters v earlier).symm.trans same
    · cases along.symm.trans same

theorem checkCommand_complete : (checkCommand l old new).2 = none ↔ Resolvable old new := by
  constructor
  · intro complete
    obtain ⟨elements, replies, compared, answered, _⟩ :=
      checkCommand_parts.mp (Prod.ext rfl complete)
    obtain ⟨oldReply, newReply, oldKnown, newKnown, _⟩ := compareReplyTypes_exact.mp answered
    exact {
      oldElement := fun oldTyped => (compareNamespaces_resolved oldTyped compared).1
      newElement := fun oldTyped => (compareNamespaces_resolved oldTyped compared).2
      oldReply := ⟨oldReply, oldKnown⟩
      newReply := ⟨newReply, newKnown⟩ }
  · intro resolvable
    obtain ⟨elements, compared⟩ := compareNamespaces_ok (p := pairing old new) resolvable
    obtain ⟨oldReply, oldKnown⟩ := resolvable.oldReply
    obtain ⟨newReply, newKnown⟩ := resolvable.newReply
    have answered := (compareReplyTypes_exact (p := pairing old new)).mpr
      ⟨oldReply, newReply, oldKnown, newKnown, rfl⟩
    have checked := (checkCommand_parts (l := l)).mpr ⟨elements, _, compared, answered, rfl⟩
    exact congrArg Prod.snd checked

theorem checkCommand_silent {after : Ledger} (checked : checkCommand l old new = (after, none)) :
    after.found = l.found ↔ ∀ d e, ¬Broken old new d e := by
  rw [checkCommand_after] at checked
  obtain ⟨rfl, complete⟩ := Prod.mk.inj checked
  have fresh {e : Incompatibility} :
      e ∈ (checkCommand {} old new).1.found ↔ ∃ d, Broken old new d e := by
    simpa using checkCommand_broken (l := {}) (e := e) (Prod.ext rfl complete)
  simp only [Ledger.after, List.append_right_eq_self, List.eq_nil_iff_forall_not_mem, fresh]
  constructor
  · intro none d e broken
    exact none e ⟨d, broken⟩
  · intro none e found
    obtain ⟨d, broken⟩ := found
    exact none d e broken

-- What a command adds is everything that is broken about it, and nothing of it comes from the
-- commands before.
theorem checkCommand_exact (old new : LocatedCommand) :
    ∃ found : List Incompatibility,
      (∀ l, (checkCommand l old new).1.found = l.found ++ found) ∧
      (∀ l, (checkCommand l old new).2 = none ↔ Resolvable old new) ∧
      (Resolvable old new → ∀ e, e ∈ found ↔ ∃ d, Broken old new d e) := by
  refine ⟨(checkCommand {} old new).1.found, ?_, ?_, ?_⟩
  · intro l
    rw [checkCommand_after]
    rfl
  · exact fun l => checkCommand_complete
  · intro resolvable e
    have checked : checkCommand {} old new = ((checkCommand {} old new).1, none) :=
      Prod.ext rfl (checkCommand_complete.mpr resolvable)
    simpa using checkCommand_broken checked

def folder : StructDef :=
  { location := builtinLocation, name := "folder"
    fields := [{ location := builtinLocation, name := "notes", type := some (.array "note") }] }

def note (size : String) : StructDef :=
  { location := builtinLocation, name := "note"
    fields := [fieldAt builtinLocation "parent" "folder", fieldAt builtinLocation "size" size] }

def listFolder (size : String) : LocatedCommand :=
  { side := { file := "folder.idl", symbols := { structs := [folder, note size] } }
    command := {
      base := {
        location := builtinLocation, name := "list"
        fields := [fieldAt builtinLocation "root" "folder"] }
      commandName := "list", apiVersion := "1", replyType := some "note" } }

theorem folders_lead_to_notes {d : Direction} :
    Leads (pairing (listFolder "int") (listFolder "string")) d (.structs folder folder)
      (note "int") (note "string") :=
  .fields (List.mem_singleton_self _) rfl rfl rfl rfl rfl rfl .array

-- The size of a note is retyped, two steps below the parameters of the command.
theorem checkCommand_exact_folders :
    Resolvable (listFolder "int") (listFolder "string") ∧
      ∃ found : List Incompatibility,
        (∀ l, (checkCommand l (listFolder "int") (listFolder "string")).1.found =
          l.found ++ found) ∧
        ∀ d, d ≠ .commandType →
          { cause := .type d (.wireTypes "size" ["int"] ["string"])
            command := "list", file := "folder.idl" } ∈ found := by
  have resolvable : Resolvable (listFolder "int") (listFolder "string") :=
    { oldElement := fun typed => nomatch typed
      newElement := fun typed => nomatch typed
      oldReply := ⟨_, rfl⟩
      newReply := ⟨_, rfl⟩ }
  obtain ⟨found, adds, _, complete⟩ := checkCommand_exact (listFolder "int") (listFolder "string")
  refine ⟨resolvable, found, adds, fun d other => (complete resolvable _).mpr ⟨d, ?_⟩⟩
  cases d with
  | parameter =>
    refine .reached .parameters (.through ?_ (.through folders_lead_to_notes .refl)) ?_
    · exact .fields (List.mem_singleton_self _) rfl rfl rfl rfl rfl rfl .single
    · exact List.mem_cons_of_mem _ (List.mem_singleton_self _)
  | commandType => exact absurd rfl other
  | reply =>
    refine .reached (.replies rfl rfl) .refl ?_
    exact List.mem_cons_of_mem _ (List.mem_singleton_self _)

-- What is wrong with an old command: it went, or something about it is broken.
def Lost (known : NameMap LocatedCommand) (command : String × LocatedCommand)
    (e : Incompatibility) : Prop :=
  match known.get? command.1 with
  | none =>
    e = { cause := .removedCommand command.1, command := command.1, file := command.2.side.file }
  | some new => ∃ d, Broken command.2 new d e

theorem checkEach_exact {known : NameMap LocatedCommand} {commands : List (String × LocatedCommand)}
    {after : Ledger} (ran : checkEach known l commands = .ok after) :
    e ∈ after.found ↔ e ∈ l.found ∨ ∃ command ∈ commands, Lost known command e := by
  induction commands generalizing l with
  | nil =>
    cases ran
    simp
  | cons command rest ih =>
    obtain ⟨name, old⟩ := command
    unfold checkEach at ran
    simp only [List.mem_cons, exists_eq_or_imp, ← or_assoc]
    cases found : known.get? name with
    | none =>
      simp only [found] at ran
      rw [ih ran]
      simp [Ledger.add, Lost, found]
    | some new =>
      simp only [found] at ran
      split at ran
      · cases ran
      · rename_i next checked
        rw [ih ran, checkCommand_broken checked]
        simp [Lost, found]

end

end WireSchema.Evolution
