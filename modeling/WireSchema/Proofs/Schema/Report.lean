import WireSchema.Schema.Definition

namespace WireSchema.Schema.Report

-- A report that found nothing wrong is its value alone, and each of its parts is one too.

section

variable {α β : Type} {r : Report α} {a : α} {b : β} {location : Location} {fault : Fault}

theorem clean_exact : r = pure a ↔ r.value = a ∧ r.diagnostics = [] := by
  cases r
  exact Report.mk.injEq .. |>.to_iff

instance : LawfulMonad Report :=
  .mk' Report
    (fun r => by simp [Functor.map])
    (fun a f => by simp [bind, pure])
    (fun r f g => by simp [bind])

theorem bind_clean {f : α → Report β} : r >>= f = pure b ↔ ∃ a, r = pure a ∧ f a = pure b := by
  constructor
  · intro clean
    obtain ⟨value, none⟩ := clean_exact.mp clean
    obtain ⟨first, second⟩ := List.append_eq_nil_iff.mp none
    exact ⟨r.value, clean_exact.mpr ⟨rfl, first⟩, clean_exact.mpr ⟨value, second⟩⟩
  · rintro ⟨a, rfl, clean⟩
    rw [pure_bind, clean]

theorem bind_value {f g : α → Report β} (same : f r.value = g r.value) : r >>= f = r >>= g := by
  simp only [bind, same]

@[simp]
theorem complain_clean {u : Unit} : complain location fault ≠ pure u := by
  simp [clean_exact, complain]

@[simp]
theorem complain_bind {f : Unit → Report β} : complain location fault >>= f ≠ pure b := by
  simp [bind_clean]

theorem complainIf_clean {condition : Bool} {u : Unit} :
    complainIf condition location fault = pure u ↔ condition = false := by
  cases condition <;> simp [complainIf]

theorem complain_unless {p : Prop} [Decidable p] {f : Unit → Report β} :
    (if p then complain location fault >>= f else f ()) = pure b ↔ ¬p ∧ f () = pure b := by
  by_cases holds : p <;> simp [holds]

@[simp]
theorem reject_clean {o : Option α} : reject location fault ≠ pure o := by
  simp [clean_exact, reject]

@[simp]
theorem pure_clean {a' : α} : (pure a : Report α) = pure a' ↔ a = a' := by
  simp [pure]

theorem ifClean_exact {o : Option α} : ifClean r = pure o ↔ ∃ a, o = some a ∧ r = pure a := by
  simp only [clean_exact, ifClean]
  constructor
  · rintro ⟨value, none⟩
    rw [none] at value
    exact ⟨r.value, value.symm, rfl, none⟩
  · rintro ⟨a, rfl, value, none⟩
    simp [value, none]

theorem toExcept_exact : r.toExcept = .ok a ↔ r = pure a := by
  unfold toExcept
  rw [clean_exact]
  split <;> simp_all

theorem toExcept_of_clean (clean : r.diagnostics = []) : r.toExcept = .ok r.value :=
  toExcept_exact.mpr (clean_exact.mpr ⟨rfl, clean⟩)

theorem toExcept_error {found : List Diagnostic} :
    r.toExcept = .error found ↔ r.diagnostics = found ∧ found ≠ [] := by
  unfold toExcept
  split <;> grind

end

section

variable {α β : Type}

theorem foldlM_clean {P : List α → β → Prop} {f : β → α → Report β} {items : List α}
    {start out : β} (ran : items.foldlM f start = pure out) (initial : P [] start)
    (step : ∀ done a b next, P done b → f b a = pure next → P (done ++ [a]) next) :
    P items out := by
  have general (done : List α) (so : P done start) : P (done ++ items) out := by
    clear initial
    induction items generalizing start done with
    | nil =>
      rw [List.foldlM_nil, pure_clean] at ran
      simpa [ran] using so
    | cons a rest ih =>
      rw [List.foldlM_cons] at ran
      obtain ⟨next, first, ran⟩ := bind_clean.mp ran
      simpa using ih ran (done ++ [a]) (step done a start next so first)
  simpa using general [] initial

theorem mapM_clean {f : α → Report β} {items : List α} {out : List β}
    (ran : items.mapM f = pure out) : ∀ b ∈ out, ∃ a ∈ items, f a = pure b := by
  induction items generalizing out with
  | nil =>
    rw [List.mapM_nil, pure_clean] at ran
    simp [← ran]
  | cons a rest ih =>
    rw [List.mapM_cons] at ran
    obtain ⟨b, first, ran⟩ := bind_clean.mp ran
    obtain ⟨more, others, ran⟩ := bind_clean.mp ran
    cases pure_clean.mp ran
    intro c member
    rcases List.mem_cons.mp member with rfl | later
    · exact ⟨a, List.mem_cons_self .., first⟩
    · obtain ⟨x, there, bound⟩ := ih others c later
      exact ⟨x, List.mem_cons_of_mem _ there, bound⟩

theorem forM_clean {check : α → Report Unit} {items : List α} :
    items.forM check = pure () ↔ ∀ a ∈ items, check a = pure () := by
  induction items with
  | nil => simp
  | cons a rest ih =>
    show check a >>= (fun _ => rest.forM check) = pure () ↔ _
    rw [bind_clean, List.forall_mem_cons, ← ih]
    constructor
    · rintro ⟨_, first, others⟩
      exact ⟨first, others⟩
    · rintro ⟨first, others⟩
      exact ⟨(), first, others⟩

end

end WireSchema.Schema.Report

namespace WireSchema.Schema

def lineOf (file : String) (line : Nat) : Location :=
  ⟨file, ⟨line, 1⟩⟩

-- A field that says nothing about itself but its type.
def fieldAt (location : Location) (name type : String) : FieldDef :=
  { location, name, type := some (.single type) }

end WireSchema.Schema
