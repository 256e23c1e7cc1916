import WireSchema.Proofs.Outcome
import WireSchema.Settings.Parameter

namespace WireSchema.Settings

open Record (Fault)

-- A value that cannot be read or that a rule refuses changes nothing, and the update hook has no
-- part in that; one that all rules accept is stored, whatever the hook says to it.

section

variable {α : Type} [Storable α]

theorem Rule.ofBound_exact {name : String} {b : Bound} {v limit : α} :
    Rule.ofBound name b limit v = .ok () ↔ b.holds v limit = true := by
  unfold Rule.ofBound
  split
  · rename_i holds
    simp [holds]
  · rename_i fails
    simp [fails]

end

inductive Supply (α : Type) where
  -- A default is checked and stored like any other value.
  | default (v : α)
  | value (v : α)
  | text (t : String)

def Supply.value? {α : Type} [Storable α] : Supply α → Option α
  | .default v => some v
  | .value v => some v
  | .text t => Storable.ofText? t

namespace Stored

section

variable {α : Type}

def Accepts (p : Stored α) (v : α) : Prop :=
  ∀ rule ∈ p.rules, rule v = .ok ()

theorem accepts_exact {p : Stored α} {v : α} :
    p.rules.all (fun rule => (rule v).isOk) = true ↔ p.Accepts v := by
  have each (rule : Rule α) : (rule v).isOk = true ↔ rule v = .ok () := by
    cases rule v <;> simp [Except.isOk, Except.toBool]
  simp only [List.all_eq_true, each, Accepts]

instance (p : Stored α) (v : α) : Decidable (p.Accepts v) :=
  decidable_of_iff _ accepts_exact

variable [Storable α]

def supply (p : Stored α) : Supply α → Except Fault Unit × Stored α
  | .default v => p.setValue v
  | .value v => p.setValue v
  | .text t => p.setText t

def run (p : Stored α) (supplies : List (Supply α)) : Stored α :=
  supplies.foldl (fun q s => (q.supply s).2) p

def accepted (p : Stored α) (supplies : List (Supply α)) : List α :=
  (supplies.filterMap Supply.value?).filter (p.Accepts ·)

inductive Refusal (p : Stored α) : Supply α → Fault → Prop where
  | unreadable {t : String} : (Supply.text t : Supply α).value? = none →
      Refusal p (.text t) (.parameter (.invalidValue t p.header.name))
  | against {s : Supply α} {v : α} {before after : List (Rule α)} {rule : Rule α} {fault : Fault} :
      s.value? = some v → p.rules = before ++ rule :: after →
      (∀ earlier ∈ before, earlier v = .ok ()) → rule v = .error fault → Refusal p s fault

end

section

variable {α : Type} [Storable α] {p : Stored α} {s : Supply α} {v : α} {fault : Fault}

theorem supply_value (read : s.value? = some v) : p.supply s = p.setValue v := by
  cases s with
  | default w =>
    cases read
    rfl
  | value w =>
    cases read
    rfl
  | text t =>
    show p.setText t = _
    unfold setText
    rw [show Storable.ofText? t = some v from read]

theorem supply_refused (refusal : p.Refusal s fault) : p.supply s = (.error fault, p) := by
  cases refusal with
  | @unreadable t unread =>
    show p.setText t = _
    unfold setText
    rw [show (Storable.ofText? t : Option α) = none from unread]
  | against read parts passed failed =>
    have refused : p.check _ = .error fault :=
      forM_error_exact.mpr ⟨_, _, _, parts, passed, failed⟩
    rw [supply_value read, setValue, refused]

theorem supply_accepted (read : s.value? = some v) (accepts : p.Accepts v) :
    p.supply s = (p.onUpdate.elim (.ok ()) (· v), { p with value := some v }) := by
  have passed : p.check v = .ok () := forM_ok_exact.mpr accepts
  rw [supply_value read, setValue, passed]
  cases p.onUpdate <;> rfl

theorem refused_or_accepted (p : Stored α) (s : Supply α) :
    (∃ fault, p.Refusal s fault) ∨ ∃ v, s.value? = some v ∧ p.Accepts v := by
  cases read : s.value? with
  | none =>
    cases s with
    | default v => cases read
    | value v => cases read
    | text t => exact .inl ⟨_, .unreadable read⟩
  | some v =>
    cases checked : p.check v with
    | ok => exact .inr ⟨v, rfl, forM_ok_exact.mp checked⟩
    | error fault =>
      obtain ⟨before, rule, after, parts, passed, failed⟩ := forM_error_exact.mp checked
      exact .inl ⟨fault, .against read parts passed failed⟩

theorem Refusal.not_accepted (refusal : p.Refusal s fault) : p.accepted [s] = [] := by
  cases refusal with
  | unreadable unread => simp [accepted, unread]
  | @against s v before after rule fault read parts passed failed =>
    have refuses : ¬ p.Accepts v := by
      intro accepts
      have member : rule ∈ p.rules := by simp [parts]
      cases (accepts rule member).symm.trans failed
    simp [accepted, read, refuses]

theorem accepted_append (p : Stored α) (earlier later : List (Supply α)) :
    p.accepted (earlier ++ later) = p.accepted earlier ++ p.accepted later := by
  simp only [accepted, List.filterMap_append, List.filter_append]

theorem supply_state (p : Stored α) (s : Supply α) :
    (p.supply s).2 = { p with value := (p.accepted [s]).getLast?.or p.value } := by
  rcases p.refused_or_accepted s with ⟨fault, refusal⟩ | ⟨v, read, accepts⟩
  · rw [supply_refused refusal, refusal.not_accepted]
    rfl
  · rw [supply_accepted read accepts]
    simp [accepted, read, accepts]

theorem run_state (p : Stored α) (supplies : List (Supply α)) :
    p.run supplies = { p with value := (p.accepted supplies).getLast?.or p.value } := by
  induction supplies generalizing p with
  | nil => rfl
  | cons s rest ih =>
    have next : p.run (s :: rest) = run (p.supply s).2 rest := rfl
    have split : p.accepted (s :: rest) = p.accepted [s] ++ p.accepted rest :=
      p.accepted_append [s] rest
    rw [next, ih, supply_state, split, List.getLast?_append, Option.or_assoc]
    rfl

theorem setText_header (p : Stored α) (t : String) : (p.setText t).2.header = p.header := by
  have state : (p.setText t).2 = _ := p.supply_state (.text t)
  rw [state]

end

-- After any supplies nothing but the value has changed: it is the last one that was accepted, and
-- without any it is the old one. What comes next is refused or accepted. A refusal is the same for
-- all hooks, as none is asked; an accepted value is stored also when the hook fails on it.
theorem last_accepted_stands {α : Type} [Storable α] (p : Stored α) (supplies : List (Supply α)) :
    let q := p.run supplies
    q = { p with value := (p.accepted supplies).getLast?.or p.value } ∧
    (∀ v ∈ p.accepted supplies, p.Accepts v ∧
      ∀ name b limit, Rule.ofBound name b limit ∈ p.rules → b.holds v limit = true) ∧
    (∀ s, (∃ fault, p.Refusal s fault) ∨ ∃ v, s.value? = some v ∧ p.Accepts v) ∧
    (∀ s fault, p.Refusal s fault → ∀ hook,
      { q with onUpdate := hook }.supply s = (.error fault, { q with onUpdate := hook })) ∧
    ∀ s v, s.value? = some v → p.Accepts v →
      q.supply s = (p.onUpdate.elim (.ok ()) (· v), { q with value := some v }) := by
  intro q
  have state : q = { p with value := (p.accepted supplies).getLast?.or p.value } :=
    p.run_state supplies
  refine ⟨state, ?_, p.refused_or_accepted, ?_, ?_⟩
  · intro v member
    have accepts : p.Accepts v := by simpa using (List.mem_filter.mp member).2
    exact ⟨accepts, fun name b limit bound => Rule.ofBound_exact.mp (accepts _ bound)⟩
  · intro s fault refusal hook
    rw [state]
    apply supply_refused
    cases refusal with
    | unreadable unread => exact .unreadable unread
    | against read parts passed failed => exact .against read parts passed failed
  · intro s v read accepts
    rw [state]
    exact supply_accepted read accepts

-- A number from zero on that is not infinite, with a hook that fails on one.
def ratio : Stored Double where
  header := { name := "ratio", setAt := .startupAndRuntime }
  rules := [Rule.ofBound "ratio" .greaterOrEqual .zero,
    fun x => if x.isInfinite then .error (.validation "unlimited") else .ok ()]
  onUpdate := some fun x => if x = .one then .error (.validation "hook failed") else .ok ()

-- NaN stands in no relation to zero.
def attempts : List (Supply Double) :=
  [.default .zero, .value .one, .value .nan, .value (.infinity false), .text "most"]

theorem last_accepted_stands_ratio :
    (ratio.run attempts).value = some .one ∧
      (ratio.supply (.value .one)).1 = .error (.validation "hook failed") ∧
      (ratio.run attempts).supply (.value (.infinity false)) =
        (.error (.validation "unlimited"), ratio.run attempts) ∧
      (ratio.run attempts).supply (.text "most") =
        (.error (.parameter (.invalidValue "most" "ratio")), ratio.run attempts) := by
  obtain ⟨state, -, -, refused, -⟩ := last_accepted_stands ratio attempts
  obtain ⟨-, -, -, -, stored⟩ := last_accepted_stands ratio []
  have kept : ratio.accepted attempts = [.zero, .one] := by decide
  refine ⟨?_, ?_, ?_, ?_⟩
  · rw [state, kept]
    rfl
  · rw [show ratio = ratio.run [] from rfl, stored (.value .one) .one rfl (by decide)]
    rfl
  · have bounded : ∀ earlier ∈ [Rule.ofBound "ratio" .greaterOrEqual Double.zero],
        earlier (Double.infinity false) = .ok () := by
      simpa using Rule.ofBound_exact.mpr (by decide)
    exact refused _ _ (.against rfl (show ratio.rules = [_] ++ _ :: [] from rfl) bounded rfl) _
  · exact refused _ _ (.unreadable (by decide)) _

end Stored

end WireSchema.Settings
