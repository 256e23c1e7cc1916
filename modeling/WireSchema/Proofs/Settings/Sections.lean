import Mathlib.Tactic.Tauto
import WireSchema.Proofs.Settings.Validation

namespace WireSchema.Settings.OptionSection

open Record (Fault)

-- A newcomer is let in if none of its options' own names is in use, as an option's own name or as
-- an old one; its old names are not looked at.

def Admits (s inner : OptionSection) : Prop :=
  ∀ o p, s.Holds o → inner.Holds p → o.isCalled p.dottedName = false

def extended (s inner : OptionSection) : OptionSection :=
  .mk s.name s.options (s.sections ++ [inner])

def Shares (s inner : OptionSection) : Prop :=
  ∃ o p, s.Holds o ∧ inner.Holds p ∧ o.dottedName = p.dottedName

def Recalls (s inner : OptionSection) : Prop :=
  ∃ o p, s.Holds o ∧ inner.Holds p ∧ p.dottedName ∈ o.deprecatedNames

section

variable {s inner next root a b : OptionSection} {o : StartupOption} {name : String}

theorem find?_isSome : (s.find? name).isSome = true ↔ ∃ o, s.Holds o ∧ o.isCalled name = true := by
  rw [find?, List.find?_isSome]
  simp only [mem_allOptions]

theorem admits_exact : s.Admits inner ↔
    ∀ p ∈ inner.allOptions, (s.find? p.dottedName).isSome = false := by
  simp only [← Bool.not_eq_true, find?_isSome, not_exists, not_and, mem_allOptions]
  exact ⟨fun admits p there o here => Bool.not_eq_true _ ▸ admits o p here there,
    fun absent o p here there => Bool.not_eq_true _ ▸ absent p there o here⟩

theorem addSection_exact :
    s.addSection inner = .ok next ↔ s.Admits inner ∧ next = s.extended inner := by
  have each (p : StartupOption) :
      (if (s.find? p.dottedName).isSome then throw (Fault.option (.conflictingName p.dottedName))
        else return () : Except Fault Unit) = .ok () ↔ (s.find? p.dottedName).isSome = false := by
    cases (s.find? p.dottedName).isSome <;> simp [throw, throwThe, MonadExceptOf.throw, pure,
      Except.pure]
  unfold addSection
  rw [check_bind_exact, forM_ok_exact, admits_exact]
  simp only [each]
  exact and_congr_right fun _ => by simp [extended, pure, Except.pure, eq_comm]

theorem holds_extended : (s.extended inner).Holds o ↔ s.Holds o ∨ inner.Holds o := by
  constructor
  · intro holds
    cases holds with
    | own member => exact .inl (.own member)
    | inside member holds =>
      rcases List.mem_append.mp member with old | new
      · exact .inl (.inside old holds)
      · exact .inr (List.mem_singleton.mp new ▸ holds)
  · rintro (holds | holds)
    · cases holds with
      | own member => exact .own member
      | inside member holds => exact .inside (List.mem_append_left _ member) holds
    · exact .inside (List.mem_append_right _ (List.mem_singleton_self _)) holds

theorem admits_extended : (root.extended a).Admits b ↔ root.Admits b ∧ a.Admits b := by
  simp only [Admits, holds_extended]
  constructor
  · intro all
    exact ⟨fun o p here => all o p (.inl here), fun o p here => all o p (.inr here)⟩
  · rintro ⟨first, second⟩ o p (here | here) there
    · exact first o p here there
    · exact second o p here there

theorem both_added : root.addSection a >>= (·.addSection b) = .ok next ↔
    root.Admits a ∧ root.Admits b ∧ a.Admits b ∧ next = (root.extended a).extended b := by
  simp only [bind_ok_exact, addSection_exact]
  constructor
  · rintro ⟨_, ⟨first, rfl⟩, second, rfl⟩
    obtain ⟨beside, behind⟩ := admits_extended.mp second
    exact ⟨first, beside, behind, rfl⟩
  · rintro ⟨first, beside, behind, rfl⟩
    exact ⟨_, ⟨first, rfl⟩, admits_extended.mpr ⟨beside, behind⟩, rfl⟩

theorem succeeds_both : Succeeds (root.addSection a >>= (·.addSection b)) ↔
    root.Admits a ∧ root.Admits b ∧ a.Admits b := by
  simp only [Succeeds, both_added]
  simp

theorem admits_parts : a.Admits b ↔ ¬a.Shares b ∧ ¬a.Recalls b := by
  have called (o p : StartupOption) : o.isCalled p.dottedName = true ↔
      o.dottedName = p.dottedName ∨ p.dottedName ∈ o.deprecatedNames := by
    simp [StartupOption.isCalled]
  simp only [Admits, Shares, Recalls, ← Bool.not_eq_true, called, not_or, not_exists, not_and]
  exact ⟨fun all => ⟨fun o p here there => (all o p here there).1,
      fun o p here there => (all o p here there).2⟩,
    fun ⟨own, old⟩ o p here there => ⟨own o p here there, old o p here there⟩⟩

theorem shares_comm : a.Shares b ↔ b.Shares a := by
  have half {a b : OptionSection} : a.Shares b → b.Shares a := fun ⟨o, p, here, there, same⟩ =>
    ⟨p, o, there, here, same.symm⟩
  exact ⟨half, half⟩

end

-- When two sections both get in, one after the other, and when their order makes no difference to
-- that: where neither is refused anyway and they have no own name in common, an old name on the one
-- side may only be an own name on the other if it is so the other way round, too.
theorem section_order_exact (root a b : OptionSection) :
    (∀ next, root.addSection a >>= (·.addSection b) = .ok next ↔
      root.Admits a ∧ root.Admits b ∧ a.Admits b ∧ next = (root.extended a).extended b) ∧
    ((Succeeds (root.addSection a >>= (·.addSection b)) ↔
        Succeeds (root.addSection b >>= (·.addSection a))) ↔
      (root.Admits a → root.Admits b → ¬a.Shares b → (a.Recalls b ↔ b.Recalls a))) := by
  refine ⟨fun _ => both_added, ?_⟩
  rw [succeeds_both, succeeds_both, admits_parts (a := a), admits_parts (a := b),
    shares_comm (a := b)]
  tauto

section

def security : OptionSection :=
  .mk "Security" [] [.mk "TLS" [
    { dottedName := "net.tls.mode", singleName := "tlsMode", type := .string
      description := "Mode", deprecatedNames := ["net.ssl.mode"] }] []]

def legacy : OptionSection :=
  .mk "Legacy" [
    { dottedName := "net.ssl.mode", singleName := "sslMode", type := .string
      description := "Old mode" }] []

-- The old name is found when it is there first, and not when it comes second.
theorem later_old_name_unnoticed :
    (named "General").addSection security >>= (·.addSection legacy) =
      .error (.option (.conflictingName "net.ssl.mode")) ∧
    Succeeds ((named "General").addSection legacy >>= (·.addSection security)) :=
  ⟨rfl, ((named "General").extended legacy).extended security, rfl⟩

end

end WireSchema.Settings.OptionSection
