import Mathlib.Data.List.Forall2

namespace WireSchema

theorem forall₂_left {α : Type u} {β : Type v} {R : α → β → Prop} {as : List α} {bs : List β}
    {a : α} (each : List.Forall₂ R as bs) (member : a ∈ as) : ∃ b ∈ bs, R a b := by
  induction each with
  | nil => cases member
  | cons here _ ih =>
    rcases List.mem_cons.mp member with rfl | later
    · exact ⟨_, List.mem_cons_self, here⟩
    · obtain ⟨b, there, holds⟩ := ih later
      exact ⟨b, List.mem_cons_of_mem _ there, holds⟩

section

variable {ε α β : Type} {x : Except ε α} {a : α} {b : β} {e : ε}

theorem bind_ok_exact {f : α → Except ε β} : x >>= f = .ok b ↔ ∃ a, x = .ok a ∧ f a = .ok b := by
  cases x <;> simp [bind, Except.bind]

theorem check_bind_exact {check : Except ε Unit} {next : Unit → Except ε α} :
    check >>= next = .ok a ↔ check = .ok () ∧ next () = .ok a := by
  cases check <;> simp [bind, Except.bind]

theorem map_ok_exact {f : α → β} : x.map f = .ok b ↔ ∃ a, x = .ok a ∧ f a = b := by
  cases x <;> simp [Except.map]

theorem mapError_ok_exact {ε' : Type} {f : ε → ε'} : x.mapError f = .ok a ↔ x = .ok a := by
  cases x <;> simp [Except.mapError]

theorem bind_error_exact {f : α → Except ε β} :
    x >>= f = .error e ↔ x = .error e ∨ ∃ a, x = .ok a ∧ f a = .error e := by
  cases x <;> simp [bind, Except.bind]

theorem map_error_exact {f : α → β} : x.map f = .error e ↔ x = .error e := by
  cases x <;> simp [Except.map]

theorem bind_pure_error_exact {f : α → β} :
    (x >>= fun a => pure (f a)) = .error e ↔ x = .error e := by
  cases x <;> simp [bind, Except.bind, pure, Except.pure]

end

section

variable {ε α : Type} {items : List α} {f : α → Except ε Unit}

theorem forM_ok_exact : items.forM f = .ok () ↔ ∀ a ∈ items, f a = .ok () := by
  induction items with
  | nil => simp [List.forM, pure, Except.pure]
  | cons a rest ih =>
    show f a >>= (fun _ => rest.forM f) = .ok () ↔ _
    rw [check_bind_exact, List.forall_mem_cons, ih]

theorem forM_error_exact {e : ε} : items.forM f = .error e ↔
    ∃ before a after, items = before ++ a :: after ∧ (∀ b ∈ before, f b = .ok ()) ∧
      f a = .error e := by
  induction items with
  | nil => simp [List.forM, pure, Except.pure]
  | cons a rest ih =>
    show f a >>= (fun _ => rest.forM f) = .error e ↔ _
    cases first : f a with
    | error fault =>
      constructor
      · intro failed
        exact ⟨[], a, rest, rfl, by simp, first.trans failed⟩
      · rintro ⟨before, b, after, parts, passed, failed⟩
        cases before with
        | nil =>
          cases parts
          exact first.symm.trans failed
        | cons c before =>
          cases parts
          cases first.symm.trans (passed a (List.mem_cons_self ..))
    | ok =>
      show rest.forM f = .error e ↔ _
      rw [ih]
      constructor
      · rintro ⟨before, b, after, rfl, passed, failed⟩
        exact ⟨a :: before, b, after, rfl, List.forall_mem_cons.mpr ⟨first, passed⟩, failed⟩
      · rintro ⟨before, b, after, parts, passed, failed⟩
        cases before with
        | nil =>
          cases parts
          cases first.symm.trans failed
        | cons c before =>
          cases parts
          exact ⟨before, b, after, rfl, (List.forall_mem_cons.mp passed).2, failed⟩

end

section

variable {ε α β : Type} {items : List α} {f : β → α → Except ε β} {start out : β}

theorem foldlM_ok_parts {before after : List α} {a : α}
    (ran : (before ++ a :: after).foldlM f start = .ok out) :
    ∃ middle next, before.foldlM f start = .ok middle ∧ f middle a = .ok next ∧
      after.foldlM f next = .ok out := by
  rw [List.foldlM_append] at ran
  obtain ⟨middle, first, ran⟩ := bind_ok_exact.mp ran
  rw [List.foldlM_cons] at ran
  obtain ⟨next, here, ran⟩ := bind_ok_exact.mp ran
  exact ⟨middle, next, first, here, ran⟩

theorem foldlM_error_exact {e : ε} : items.foldlM f start = .error e ↔
    ∃ before a after middle, items = before ++ a :: after ∧ before.foldlM f start = .ok middle ∧
      f middle a = .error e := by
  constructor
  · intro failed
    induction items generalizing start with
    | nil => cases failed
    | cons a rest ih =>
      rw [List.foldlM_cons] at failed
      rcases bind_error_exact.mp failed with failed | ⟨next, here, failed⟩
      · exact ⟨[], a, rest, start, rfl, rfl, failed⟩
      · obtain ⟨before, b, after, middle, rfl, ran, fails⟩ := ih failed
        refine ⟨a :: before, b, after, middle, rfl, ?_, fails⟩
        rw [List.foldlM_cons, here]
        exact ran
  · rintro ⟨before, a, after, middle, rfl, ran, fails⟩
    rw [List.foldlM_append, bind_error_exact]
    refine .inr ⟨middle, ran, ?_⟩
    rw [List.foldlM_cons, fails]
    rfl

end

def Succeeds {ε α : Type} (x : Except ε α) : Prop :=
  ∃ a, x = .ok a

section

variable {ε α β : Type} {x : Except ε α}

@[simp]
theorem succeeds_ok {a : α} : Succeeds (.ok a : Except ε α) :=
  ⟨a, rfl⟩

@[simp]
theorem succeeds_pure {a : α} : Succeeds (pure a : Except ε α) :=
  ⟨a, rfl⟩

@[simp]
theorem succeeds_error {e : ε} : ¬Succeeds (.error e : Except ε α) := by
  rintro ⟨_, same⟩
  cases same

theorem not_succeeds : ¬Succeeds x ↔ ∃ e, x = .error e := by
  cases x <;> simp

-- Where what follows succeeds does not depend on the result that it follows.
theorem succeeds_bind {f : α → Except ε β} {P : Prop}
    (rest : ∀ a, x = .ok a → (Succeeds (f a) ↔ P)) : Succeeds (x >>= f) ↔ Succeeds x ∧ P := by
  cases x with
  | error e => simp [bind, Except.bind]
  | ok a => simpa [bind, Except.bind] using rest a rfl

theorem succeeds_bind_pure {f : α → β} : Succeeds (x >>= fun a => pure (f a)) ↔ Succeeds x := by
  rw [succeeds_bind (P := True) (by simp), and_true]

theorem succeeds_map {f : α → β} : Succeeds (x.map f) ↔ Succeeds x := by
  cases x <;> simp [Except.map]

theorem succeeds_mapM {items : List α} {f : α → Except ε β} :
    Succeeds (items.mapM f) ↔ ∀ a ∈ items, Succeeds (f a) := by
  induction items with
  | nil => simp
  | cons a rest ih =>
    rw [List.mapM_cons, succeeds_bind fun _ _ => succeeds_bind_pure, ih, List.forall_mem_cons]

theorem mapM_ok_exact {items : List α} {f : α → Except ε β} {out : List β} :
    items.mapM f = .ok out ↔ items.map f = out.map .ok := by
  induction items generalizing out with
  | nil => simp [pure, Except.pure, eq_comm]
  | cons a rest ih =>
    rw [List.mapM_cons, bind_ok_exact, List.map_cons]
    constructor
    · rintro ⟨b, first, ran⟩
      obtain ⟨others, later, ran⟩ := bind_ok_exact.mp ran
      cases ran
      rw [first, ih.mp later, List.map_cons]
    · intro each
      cases out with
      | nil => cases each
      | cons b others =>
        rw [List.map_cons, List.cons.injEq] at each
        exact ⟨b, each.1, bind_ok_exact.mpr ⟨others, ih.mpr each.2, rfl⟩⟩

theorem succeeds_each {items : List α} {f : α → Except ε β} :
    (∃ out : List β, items.map f = out.map .ok) ↔ ∀ a ∈ items, Succeeds (f a) := by
  rw [← succeeds_mapM]
  exact exists_congr fun _ => mapM_ok_exact.symm

theorem mapM_ok_parts {items : List α} {f : α → Except ε β} {out : List β}
    (ran : items.mapM f = .ok out) :
    (∀ a ∈ items, ∃ b ∈ out, f a = .ok b) ∧ ∀ b ∈ out, ∃ a ∈ items, f a = .ok b := by
  induction items generalizing out with
  | nil =>
    cases ran
    simp
  | cons a rest ih =>
    rw [List.mapM_cons] at ran
    obtain ⟨b, first, ran⟩ := bind_ok_exact.mp ran
    obtain ⟨more, others, ran⟩ := bind_ok_exact.mp ran
    cases ran
    obtain ⟨forth, back⟩ := ih others
    constructor
    · intro c there
      rcases List.mem_cons.mp there with rfl | later
      · exact ⟨b, List.mem_cons_self, first⟩
      · obtain ⟨d, among, ran⟩ := forth c later
        exact ⟨d, List.mem_cons_of_mem _ among, ran⟩
    · intro c there
      rcases List.mem_cons.mp there with rfl | later
      · exact ⟨a, List.mem_cons_self, first⟩
      · obtain ⟨d, among, ran⟩ := back c later
        exact ⟨d, List.mem_cons_of_mem _ among, ran⟩

theorem succeeds_filterMapM {items : List α} {f : α → Except ε (Option β)}
    (each : ∀ a ∈ items, Succeeds (f a)) : Succeeds (items.filterMapM f) := by
  unfold List.filterMapM
  generalize [] = found
  induction items generalizing found with
  | nil => exact succeeds_pure
  | cons a rest ih =>
    obtain ⟨b, ran⟩ := each a List.mem_cons_self
    have more := ih fun c among => each c (List.mem_cons_of_mem _ among)
    rw [List.filterMapM.loop, ran]
    cases b with
    | none => exact more found
    | some b => exact more (b :: found)

end

end WireSchema
