import WireSchema.Text.WordChar
import Mathlib.Data.List.Basic

namespace WireSchema.Source

-- Alternatives are tried in their order, repetitions the longest first.

structure Place where
  previous : Option Char
  ahead : List Char

def Place.skip (p : Place) (n : Nat) : Place :=
  { previous := (p.ahead.take n).getLast?.or p.previous, ahead := p.ahead.drop n }

def Place.isBoundary (p : Place) : Bool :=
  p.previous.any Text.isWordChar != p.ahead.head?.any Text.isWordChar

inductive Pattern where
  | nothing
  | one (test : Char → Bool)
  | boundary
  | both (first second : Pattern)
  | either (first second : Pattern)
  | many (body : Pattern)

-- A repetition goes on only where something is taken, so it ends at the latest with the text.
def repeated (step : Place → List Place) : Nat → Place → List Place
  | 0, p => [p]
  | n + 1, p =>
    ((step p).filter (·.ahead.length < p.ahead.length)).flatMap (repeated step n) ++ [p]

namespace Pattern

def ends : Pattern → Place → List Place
  | nothing, p => [p]
  | one test, p =>
    match p.ahead with
    | [] => []
    | c :: rest => if test c then [⟨some c, rest⟩] else []
  | boundary, p => if p.isBoundary then [p] else []
  | both first second, p => (first.ends p).flatMap second.ends
  | either first second, p => first.ends p ++ second.ends p
  | many body, p => repeated body.ends p.ahead.length p

def attempt {α : Type} (pattern : Pattern) (next : Place → Option α) (p : Place) : Option α :=
  (pattern.ends p).findSome? next

def optional (body : Pattern) : Pattern :=
  either body nothing

def atLeastOne (body : Pattern) : Pattern :=
  both body (many body)

def chars : List Char → Pattern
  | [] => nothing
  | c :: rest => both (one (c == ·)) (chars rest)

end Pattern

def Pattern.Takes (pattern : Pattern) : Prop :=
  ∀ p, ∀ q ∈ pattern.ends p, q.ahead.length < p.ahead.length

-- Within a run of characters, what follows never counts where a later end would do.
def PrefersLater {α : Type} (test : Char → Bool) (next : Place → Option α) : Prop :=
  ∀ d c rest later, test d = true → test c = true →
    (next later).or (next ⟨some d, c :: rest⟩) = next later

section

variable {α : Type} {next : Place → Option α} {test : Char → Bool} {p q : Place}
  {first second body : Pattern} {previous : Option Char} {text rest : List Char} {c d : Char}

theorem Place.skip_zero : p.skip 0 = p := by
  simp [skip]

theorem Place.skip_cons {n : Nat} :
    (Place.mk previous (c :: rest)).skip (n + 1) = (Place.mk (some c) rest).skip n := by
  simp only [skip, List.take_succ_cons, List.getLast?_cons, List.drop_succ_cons]
  cases (rest.take n).getLast? <;> rfl

theorem Place.skip_skip {m n : Nat} : (p.skip m).skip n = p.skip (m + n) := by
  obtain ⟨previous, ahead⟩ := p
  induction m generalizing previous ahead with
  | zero => rw [skip_zero, Nat.zero_add]
  | succ m ih =>
    cases ahead with
    | nil => simp [skip]
    | cons c rest => rw [skip_cons, ih, Nat.add_right_comm, skip_cons]

theorem Place.skip_mark {mark : List Char} (last : mark.getLast? = some d) :
    (Place.mk previous (mark ++ rest)).skip mark.length = ⟨some d, rest⟩ := by
  simp [skip, last]

theorem repeated_enough {step : Place → List Place} {m n : Nat} (small : p.ahead.length ≤ m)
    (less : p.ahead.length ≤ n) : repeated step m p = repeated step n p := by
  have last {p : Place} (nothing : p.ahead.length ≤ 0) (k : Nat) : repeated step k p = [p] := by
    cases k with
    | zero => rfl
    | succ k =>
      have none : ∀ q : Place, ¬q.ahead.length < p.ahead.length := by omega
      simp [repeated, none]
  induction m generalizing n p with
  | zero => rw [last small, last small]
  | succ m ih =>
    cases n with
    | zero => rw [last less, last less]
    | succ n =>
      unfold repeated
      congr 1
      refine List.flatMap_congr fun q member => ?_
      have shorter := (List.mem_filter.mp member).2
      simp only [decide_eq_true_eq] at shorter
      exact ih (by omega) (by omega)

theorem repeated_le {step : Place → List Place} {n : Nat} (member : q ∈ repeated step n p) :
    q.ahead.length ≤ p.ahead.length := by
  induction n generalizing p with
  | zero =>
    cases List.mem_singleton.mp member
    exact Nat.le_refl _
  | succ n ih =>
    unfold repeated at member
    rcases List.mem_append.mp member with further | here
    · obtain ⟨r, taken, inside⟩ := List.mem_flatMap.mp further
      have shorter := (List.mem_filter.mp taken).2
      simp only [decide_eq_true_eq] at shorter
      exact Nat.le_trans (ih inside) (Nat.le_of_lt shorter)
    · cases List.mem_singleton.mp here
      exact Nat.le_refl _

theorem Pattern.ends_le {pattern : Pattern} (member : q ∈ pattern.ends p) :
    q.ahead.length ≤ p.ahead.length := by
  induction pattern generalizing p q with
  | nothing =>
    cases List.mem_singleton.mp member
    exact Nat.le_refl _
  | one test =>
    unfold Pattern.ends at member
    split at member
    · cases member
    · rename_i c rest ahead
      split at member
      · cases List.mem_singleton.mp member
        simp [ahead]
      · cases member
  | boundary =>
    unfold Pattern.ends at member
    split at member
    · cases List.mem_singleton.mp member
      exact Nat.le_refl _
    · cases member
  | both first second one two =>
    obtain ⟨r, before, after⟩ := List.mem_flatMap.mp member
    exact Nat.le_trans (two after) (one before)
  | either first second one two =>
    rcases List.mem_append.mp member with left | right
    · exact one left
    · exact two right
  | many body _ => exact repeated_le member

theorem Pattern.Takes.one : (Pattern.one test).Takes := by
  intro p q member
  unfold Pattern.ends at member
  split at member
  · cases member
  · rename_i c rest ahead
    split at member
    · cases List.mem_singleton.mp member
      simp [ahead]
    · cases member

theorem Pattern.Takes.both (takes : first.Takes) : (Pattern.both first second).Takes := by
  intro p q member
  obtain ⟨r, before, after⟩ := List.mem_flatMap.mp member
  exact Nat.lt_of_le_of_lt (Pattern.ends_le after) (takes p r before)

theorem Pattern.Takes.behind (takes : second.Takes) : (Pattern.both first second).Takes := by
  intro p q member
  obtain ⟨r, before, after⟩ := List.mem_flatMap.mp member
  exact Nat.lt_of_lt_of_le (takes r q after) (Pattern.ends_le before)

theorem Pattern.Takes.either (one : first.Takes) (two : second.Takes) :
    (Pattern.either first second).Takes := by
  intro p q member
  rcases List.mem_append.mp member with left | right
  · exact one p q left
  · exact two p q right

theorem PrefersLater.of_total (total : ∀ q, (next q).isSome = true) : PrefersLater test next := by
  intro d c rest later _ _
  obtain ⟨a, found⟩ := Option.isSome_iff_exists.mp (total later)
  rw [found]
  rfl

theorem PrefersLater.of_refusal
    (refused : ∀ d c rest, test d = true → test c = true → next ⟨some d, c :: rest⟩ = none) :
    PrefersLater test next := by
  intro d c rest later before ahead
  rw [refused d c rest before ahead, Option.or_none]

namespace Pattern

theorem head?_ends {pattern : Pattern} : (pattern.ends p).head? = pattern.attempt some p := by
  rw [attempt]
  cases pattern.ends p <;> rfl

theorem attempt_nothing : nothing.attempt next p = next p := by
  simp [attempt, ends]

theorem attempt_one :
    (one test).attempt next ⟨previous, c :: rest⟩ =
      if test c then next ⟨some c, rest⟩ else none := by
  unfold attempt ends
  by_cases taken : test c = true <;> simp [taken]

theorem attempt_one_end : (one test).attempt next ⟨previous, []⟩ = none := rfl

theorem attempt_boundary :
    boundary.attempt next p = if p.isBoundary then next p else none := by
  unfold attempt ends
  split <;> simp

theorem attempt_both :
    (both first second).attempt next = first.attempt (second.attempt next) := by
  funext p
  simp only [attempt, ends]
  induction first.ends p with
  | nil => rfl
  | cons q more ih =>
    rw [List.flatMap_cons, List.findSome?_append, ih, List.findSome?_cons]
    simp only [attempt]
    cases (second.ends q).findSome? next <;> rfl

theorem attempt_either :
    (either first second).attempt next p = (first.attempt next p).or (second.attempt next p) := by
  simp only [attempt, ends, List.findSome?_append]

theorem ends_many (takes : body.Takes) :
    (many body).ends p = (body.ends p).flatMap (many body).ends ++ [p] := by
  have further : (body.ends p).filter (·.ahead.length < p.ahead.length) = body.ends p := by
    refine List.filter_eq_self.mpr fun q member => ?_
    exact decide_eq_true (takes p q member)
  have enough : (many body).ends p = repeated body.ends (p.ahead.length + 1) p :=
    repeated_enough (Nat.le_refl _) (Nat.le_succ _)
  rw [enough, repeated, further]
  congr 1
  refine List.flatMap_congr fun q member => ?_
  exact repeated_enough (Nat.le_of_lt (takes p q member)) (Nat.le_refl _)

theorem attempt_many (takes : body.Takes) :
    (many body).attempt next p =
      (body.attempt ((many body).attempt next) p).or (next p) := by
  have steps : (many body).attempt next p =
      ((both body (many body)).attempt next p).or (nothing.attempt next p) := by
    simp only [attempt, ends_many takes, List.findSome?_append]
    rfl
  rw [steps, attempt_both, attempt_nothing]

theorem attempt_run (later : PrefersLater test next) (inside : test d = true) :
    (many (one test)).attempt next ⟨some d, rest⟩ =
      next ((Place.mk (some d) rest).skip (rest.takeWhile test).length) := by
  induction rest generalizing d with
  | nil =>
    rw [attempt_many Takes.one, attempt_one_end, Option.none_or]
    rfl
  | cons c rest ih =>
    rw [attempt_many Takes.one, attempt_one]
    by_cases more : test c = true
    · rw [if_pos more, ih more, later d c rest _ inside more, List.takeWhile_cons_of_pos more,
        List.length_cons, Place.skip_cons]
    · rw [if_neg more, Option.none_or, List.takeWhile_cons_of_neg more, List.length_nil,
        Place.skip_zero]

theorem attempt_atLeastOne (later : PrefersLater test next) :
    (atLeastOne (one test)).attempt next p =
      if (p.ahead.takeWhile test).length = 0 then none
      else next (p.skip (p.ahead.takeWhile test).length) := by
  obtain ⟨previous, ahead⟩ := p
  unfold atLeastOne
  rw [attempt_both]
  cases ahead with
  | nil => rfl
  | cons c rest =>
    rw [attempt_one]
    by_cases first : test c = true
    · simp only [if_pos first, attempt_run later first, List.takeWhile_cons_of_pos first,
        List.length_cons, Place.skip_cons, Nat.add_eq_zero_iff, Nat.one_ne_zero, and_false,
        if_false]
    · simp [first]

theorem attempt_chars :
    (chars text).attempt next p =
      if text <+: p.ahead then next (p.skip text.length) else none := by
  obtain ⟨previous, ahead⟩ := p
  induction text generalizing previous ahead with
  | nil => simp [chars, attempt_nothing, Place.skip_zero]
  | cons c text ih =>
    unfold chars
    rw [attempt_both]
    cases ahead with
    | nil => simp [attempt_one_end]
    | cons d rest =>
      rw [attempt_one, ih, List.length_cons, Place.skip_cons]
      simp only [List.cons_prefix_cons, beq_iff_eq]
      by_cases same : c = d <;> simp [same]

theorem attempt_one_skip :
    (one test).attempt next p = if p.ahead.head?.any test then next (p.skip 1) else none := by
  obtain ⟨previous, ahead⟩ := p
  cases ahead with
  | nil => rfl
  | cons c rest =>
    rw [attempt_one, Place.skip_cons, Place.skip_zero]
    rfl

theorem attempt_elsewhere (elsewhere : ¬text <+: p.ahead) :
    (chars text).attempt next p = none := by
  rw [attempt_chars, if_neg elsewhere]

theorem attempt_mark (mark : List Char) (d : Char) (last : mark.getLast? = some d) :
    (chars mark).attempt next ⟨previous, mark ++ rest⟩ = next ⟨some d, rest⟩ := by
  rw [attempt_chars, if_pos (List.prefix_append ..), Place.skip_mark last]

end Pattern

end

end WireSchema.Source
