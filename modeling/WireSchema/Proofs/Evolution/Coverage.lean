import WireSchema.Proofs.Evolution.Descent

namespace WireSchema.Evolution

open Schema (StructDef)

-- A walk enters each pair of structs once only, and still finds everything that is wrong at a site
-- that can be reached.

inductive Exposes (p : Pairing) (d : Direction) (allowed : Visit → Prop) :
    List Finding → Incompatibility → Prop where
  | here {findings : List Finding} {e : Incompatibility} (member : .fault e ∈ findings) :
      Exposes p d allowed findings e
  | entering {findings : List Finding} {e : Incompatibility} {s t : StructDef}
      (member : .descend s t ∈ findings) (entered : allowed ⟨s.name, t.name, d⟩)
      (inside : Exposes p d allowed (compareStructs p d s t) e) : Exposes p d allowed findings e

def Located (p : Pairing) (findings : List Finding) : Prop :=
  ∀ s t, .descend s t ∈ findings → p.Holds s t

section

variable {p : Pairing} {d : Direction} {allowed : Visit → Prop} {e : Incompatibility}
  {xs ys : List Finding}

theorem located_findings {site : Site} (known : site.Known p) :
    Located p (site.findings p d) := by
  intro s t member
  exact (descend_exact.mp member).holds known

theorem located_append : Located p (xs ++ ys) ↔ Located p xs ∧ Located p ys := by
  simp only [Located, List.mem_append, or_imp, forall_and]

theorem located_compareStructs {s t : StructDef} : Located p (compareStructs p d s t) := by
  have known : (Site.structs s t).Known p := .structs
  exact located_findings (d := d) known

theorem Exposes.mono {wider : Visit → Prop} (exposes : Exposes p d allowed xs e)
    (more : ∀ v, allowed v → wider v) (within : xs ⊆ ys) : Exposes p d wider ys e := by
  induction exposes generalizing ys with
  | here member => exact .here (within member)
  | entering member entered _ ih =>
    exact .entering (within member) (more _ entered) (ih (List.Subset.refl _))

theorem exposes_append :
    Exposes p d allowed (xs ++ ys) e ↔ Exposes p d allowed xs e ∨ Exposes p d allowed ys e := by
  constructor
  · intro exposes
    cases exposes with
    | here member => exact (List.mem_append.mp member).imp .here .here
    | entering member entered inside =>
      exact (List.mem_append.mp member).imp (.entering · entered inside) (.entering · entered inside)
  · intro either
    rcases either with exposes | exposes
    · exact exposes.mono (fun _ => id) (List.subset_append_left _ _)
    · exact exposes.mono (fun _ => id) (List.subset_append_right _ _)

theorem exposes_nil : ¬Exposes p d allowed [] e := by
  rintro (member | member) <;> simp at member

theorem exposes_fault {i : Incompatibility} :
    Exposes p d allowed [.fault i] e ↔ e = i := by
  constructor
  · intro exposes
    cases exposes with
    | here member => simpa using member
    | entering member _ _ => simp at member
  · intro equal
    cases equal
    exact .here (List.mem_singleton_self _)

theorem exposes_descend {s t : StructDef} :
    Exposes p d allowed [.descend s t] e ↔
      allowed ⟨s.name, t.name, d⟩ ∧ Exposes p d allowed (compareStructs p d s t) e := by
  constructor
  · intro exposes
    cases exposes with
    | here member => simp at member
    | entering member entered inside =>
      cases List.mem_singleton.mp member
      exact ⟨entered, inside⟩
  · intro parts
    obtain ⟨entered, inside⟩ := parts
    exact .entering (List.mem_singleton_self _) entered inside

-- A fault below a pair is exposed without entering the pair again: a path that comes back to the
-- pair can start there.
theorem Exposes.shortcut {s t : StructDef} (held : p.Holds s t) (located : Located p xs)
    (exposes : Exposes p d allowed xs e) :
    Exposes p d (fun v => v ≠ ⟨s.name, t.name, d⟩ ∧ allowed v) xs e ∨
      Exposes p d (fun v => v ≠ ⟨s.name, t.name, d⟩ ∧ allowed v) (compareStructs p d s t) e := by
  induction exposes with
  | here member => exact .inl (.here member)
  | @entering findings e s' t' member entered inside ih =>
    rcases ih located_compareStructs with inner | inner
    · by_cases same : (⟨s'.name, t'.name, d⟩ : Visit) = ⟨s.name, t.name, d⟩
      · injection same with oldName newName
        obtain ⟨rfl, rfl⟩ := held.unique (located s' t' member) oldName newName
        exact .inr inner
      · exact .inl (.entering member ⟨same, entered⟩ inner)
    · exact .inr inner

-- So entering a pair and closing it behind loses nothing, as long as its own findings are kept.
theorem exposes_visit {l : Ledger} {s t : StructDef} (held : p.Holds s t) (located : Located p xs) :
    Exposes p d (· ∉ (l.visit ⟨s.name, t.name, d⟩).visited) (compareStructs p d s t ++ xs) e ↔
      Exposes p d (· ∉ l.visited) (compareStructs p d s t ++ xs) e := by
  have closed : ∀ v, (v ∉ (l.visit ⟨s.name, t.name, d⟩).visited) =
      (v ≠ ⟨s.name, t.name, d⟩ ∧ v ∉ l.visited) := by
    simp [Ledger.visit]
  simp only [closed]
  constructor
  · intro exposes
    exact exposes.mono (fun _ fresh => fresh.2) (List.Subset.refl _)
  · intro exposes
    have both : Located p (compareStructs p d s t ++ xs) :=
      located_append.mpr ⟨located_compareStructs, located⟩
    rcases exposes.shortcut held both with through | around
    · exact through
    · exact exposes_append.mpr (.inl around)

theorem walk_exact {l : Ledger} {findings : List Finding} (located : Located p findings) :
    e ∈ (walk p d l findings).found ↔
      e ∈ l.found ∨ Exposes p d (· ∉ l.visited) findings e := by
  fun_induction walk p d l findings with
  | case1 l => simp [exposes_nil]
  | case2 l i rest ih =>
    rw [← List.singleton_append, located_append] at located
    rw [ih located.2, ← List.singleton_append, exposes_append, exposes_fault]
    simp [Ledger.add, or_assoc]
  | case3 l s t rest v fresh ih =>
    rw [← List.singleton_append, located_append] at located
    have held : p.Holds s t := located.1 s t (List.mem_singleton_self _)
    have next : Located p (compareStructs p d s t ++ rest) :=
      located_append.mpr ⟨located_compareStructs, located.2⟩
    rw [ih next, exposes_visit held located.2, ← List.singleton_append, exposes_append,
      exposes_append, exposes_descend]
    simp [Ledger.visit, fresh.1, v]
  | case4 l s t rest v stale ih =>
    rw [← List.singleton_append, located_append] at located
    have held : p.Holds s t := located.1 s t (List.mem_singleton_self _)
    have seen : v ∈ l.visited :=
      Decidable.byContradiction fun unseen => stale ⟨unseen, held.visits d⟩
    rw [ih located.2, ← List.singleton_append, exposes_append, exposes_descend]
    simp [seen, v]

inductive Reached (p : Pairing) (d : Direction) : Site → Site → Prop where
  | refl {root : Site} : Reached p d root root
  | through {root site : Site} {s t : StructDef} (leads : Leads p d root s t)
      (rest : Reached p d (.structs s t) site) : Reached p d root site

def Site.Faulty (p : Pairing) (d : Direction) (site : Site) (e : Incompatibility) : Prop :=
  .fault e ∈ site.findings p d

theorem Exposes.reached {findings : List Finding} (exposes : Exposes p d allowed findings e) :
    ∀ root : Site, root.findings p d = findings →
      ∃ site, Reached p d root site ∧ site.Faulty p d e := by
  induction exposes with
  | here member =>
    rintro root rfl
    exact ⟨root, .refl, member⟩
  | @entering _ _ s t member _ _ ih =>
    rintro root rfl
    obtain ⟨site, rest, faulty⟩ := ih (.structs s t) rfl
    exact ⟨site, .through (descend_exact.mp member) rest, faulty⟩

theorem Reached.exposes {root site : Site} (path : Reached p d root site)
    (unrestricted : ∀ old new, allowed ⟨old, new, d⟩) (faulty : site.Faulty p d e) :
    Exposes p d allowed (root.findings p d) e := by
  induction path with
  | refl => exact .here faulty
  | through leads _ ih => exact .entering (descend_exact.mpr leads) (unrestricted _ _) (ih faulty)

theorem walk_reached {l : Ledger} {root : Site} (known : root.Known p)
    (unentered : ∀ v ∈ l.visited, v.direction ≠ d) :
    e ∈ (walk p d l (root.findings p d)).found ↔
      e ∈ l.found ∨ ∃ site, Reached p d root site ∧ site.Faulty p d e := by
  rw [walk_exact (located_findings known)]
  refine or_congr_right ⟨fun exposes => exposes.reached root rfl, ?_⟩
  intro parts
  obtain ⟨site, path, faulty⟩ := parts
  exact path.exposes (fun _ _ seen => unentered _ seen rfl) faulty

theorem walk_visited {l : Ledger} {findings : List Finding} :
    ∀ v ∈ (walk p d l findings).visited, v ∈ l.visited ∨ v.direction = d := by
  fun_induction walk p d l findings with
  | case1 l => exact fun v seen => .inl seen
  | case2 l i rest ih => exact ih
  | case3 l s t rest v fresh ih =>
    intro w seen
    rcases ih w seen with entered | along
    · rcases List.mem_cons.mp entered with rfl | before
      · exact .inr rfl
      · exact .inl before
    · exact .inr along
  | case4 l s t rest v stale ih => exact ih

def Ledger.after (before : List Incompatibility) (l : Ledger) : Ledger :=
  { l with found := before ++ l.found }

theorem walk_after {before : List Incompatibility} {l : Ledger} {findings : List Finding} :
    walk p d (l.after before) findings = (walk p d l findings).after before := by
  fun_induction walk p d l findings with
  | case1 l => rw [walk]
  | case2 l i rest ih =>
    rw [walk, ← ih]
    simp [Ledger.after, Ledger.add]
  | case3 l s t rest v fresh ih =>
    rw [walk, ← ih]
    exact dif_pos fresh
  | case4 l s t rest v stale ih =>
    rw [walk, ← ih]
    exact dif_neg stale

end

end WireSchema.Evolution
