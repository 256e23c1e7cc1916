import WireSchema.Text.Casing

namespace WireSchema.Text

def isSmall (c : Char) : Bool :=
  c.isLower || c.isDigit

def Ascii (text : String) : Prop :=
  ∀ c ∈ text.toList, c.toNat < 128

theorem ascii_chars {p : Char → Bool} (all : ∀ n : Fin 128, p (Char.ofNat n) = true) {c : Char}
    (ascii : c.toNat < 128) : p c = true := by
  have here := all ⟨c.toNat, ascii⟩
  rwa [Char.ofNat_toNat] at here

theorem isSmall_ascii {c : Char} (small : isSmall c = true) : c.toNat < 128 := by
  have below {n : UInt32} (small : n.toNat < 128) (atMost : c.val ≤ n) : c.toNat < 128 :=
    Nat.lt_of_le_of_lt (UInt32.le_iff_toNat_le.mp atMost) small
  rcases Bool.or_eq_true_iff.mp small with letter | digit
  · exact below (by decide) (of_decide_eq_true (Bool.and_eq_true_iff.mp letter).2)
  · exact below (by decide) (of_decide_eq_true (Bool.and_eq_true_iff.mp digit).2)

theorem isSmall_facts {c : Char} (small : isSmall c = true) :
    isAlphanumeric c = true ∧ isUpperCase c = false ∧ toUpperCase c = [c.toUpper] ∧
      c.toUpper.toLower = c := by
  have facts := ascii_chars (p := fun c => !isSmall c || (isAlphanumeric c && !isUpperCase c &&
    toUpperCase c == [c.toUpper] && c.toUpper.toLower == c)) (by decide +kernel)
    (isSmall_ascii small)
  simpa [small, and_assoc] using facts

-- Shifts to lower case end at small letters, as that of the Kelvin sign does, or beyond ASCII.
theorem lowerShifts_targets : ∀ s ∈ lowerShifts,
    97 ≤ (s.run.first : Int) + s.distance ∧ (s.run.last : Int) + s.distance ≤ 122 ∨
      128 ≤ (s.run.first : Int) + s.distance ∧ (s.run.last : Int) + s.distance < 0xd800 ∨
      0xe000 ≤ (s.run.first : Int) + s.distance ∧ (s.run.last : Int) + s.distance < 0x110000 := by
  decide +kernel

theorem toNat_ofNat {n : Nat} (valid : n.isValidChar) : (Char.ofNat n).toNat = n := by
  rw [Char.ofNat, dif_pos valid]
  rfl

theorem shifted_small {c : Char} (beyond : 128 ≤ c.toNat)
    (ascii : (shiftBy lowerShifts c).toNat < 128) : isSmall (shiftBy lowerShifts c) = true := by
  have small := ascii_chars (p := fun c => !decide (97 ≤ c.toNat ∧ c.toNat ≤ 122) || isSmall c)
    (by decide +kernel) ascii
  suffices letter : 97 ≤ (shiftBy lowerShifts c).toNat ∧ (shiftBy lowerShifts c).toNat ≤ 122 by
    simpa [letter] using small
  clear small
  unfold shiftBy at ascii ⊢
  split at ascii
  · rename_i s found
    have inside := List.find?_some found
    simp only [Run.contains, Bool.and_eq_true, decide_eq_true_eq] at inside
    have target := lowerShifts_targets s (List.mem_of_find?_eq_some found)
    generalize point : ((c.toNat : Int) + s.distance).toNat = n at ascii ⊢
    have valid : n.isValidChar := by
      unfold Nat.isValidChar
      omega
    rw [toNat_ofNat valid] at ascii ⊢
    omega
  · omega

theorem toLowerCase_small {c d : Char} (letter : isAlphanumeric c = true)
    (there : d ∈ toLowerCase c) (ascii : d.toNat < 128) : isSmall d = true := by
  unfold toLowerCase at there
  split at there
  · rename_i plain
    cases List.mem_singleton.mp there
    have small := ascii_chars (p := fun c => !isAlphanumeric c || isSmall c.toLower)
      (by decide +kernel) plain
    simpa [letter] using small
  · split at there
    · simp only [List.mem_cons, List.not_mem_nil, or_false] at there
      rcases there with rfl | rfl
      · rfl
      · exact absurd ascii (by decide)
    · cases List.mem_singleton.mp there
      exact shifted_small (by omega) ascii

theorem toLowerCase_ne_nil (c : Char) : toLowerCase c ≠ [] := by
  unfold toLowerCase
  split
  · simp
  · split <;> simp

end WireSchema.Text

namespace WireSchema.Casing

open Text (Ascii isAlphanumeric isSmall)

-- Cutting a name into words leaves letters and numbers, and lower case leaves no capital of ASCII.
-- So a member name in ASCII is cut back into the very words that it was put together from.

-- A word that stays one word wherever it is cut again.
def SmallWord (word : List Char) : Prop :=
  word ≠ [] ∧ ∀ c ∈ word, isSmall c = true

theorem cutRun_ne_nil {mode : Mode} {word run : List Char} (begun : mode = .upper → word ≠ []) :
    ∀ w ∈ cutRun mode word run, w ≠ [] := by
  fun_induction cutRun mode word run with
  | case1 => simp
  | case2 => simp
  | case3 mode word c next rest mode' ends ih =>
    intro w there
    rcases List.mem_cons.mp there with rfl | later
    · simp
    · exact ih (by simp) w later
  | case4 mode word c next rest mode' _ ends ih =>
    intro w there
    rcases List.mem_cons.mp there with rfl | later
    · simpa using begun ends.1
    · exact ih (by simp) w later
  | case5 mode word c next rest mode' _ _ ih => exact ih (by simp)

theorem cutRun_chars {mode : Mode} {word run : List Char} :
    ∀ w ∈ cutRun mode word run, ∀ c ∈ w, c ∈ word ∨ c ∈ run := by
  fun_induction cutRun mode word run with
  | case1 => simp
  | case2 => simp
  | case3 => grind
  | case4 => grind
  | case5 => grind

theorem runs_alphanumeric (text : List Char) :
    ∀ run ∈ runs text, ∀ c ∈ run, isAlphanumeric c = true := by
  unfold runs
  induction text with
  | nil => simp [List.splitOnP_nil]
  | cons c rest ih =>
    rw [List.splitOnP_cons_eq_if_modifyHead]
    split
    · simpa using ih
    · rename_i letter
      cases cut : rest.splitOnP fun c => !isAlphanumeric c with
      | nil => simp
      | cons first others =>
        rw [cut] at ih
        simp only [Bool.not_eq_true', Bool.not_eq_false] at letter
        simpa [letter] using ih

theorem words_alphanumeric (text : String) :
    ∀ w ∈ words text, w ≠ [] ∧ ∀ c ∈ w, isAlphanumeric c = true := by
  intro w there
  obtain ⟨run, among, cut⟩ := List.mem_flatMap.mp there
  refine ⟨cutRun_ne_nil (by simp) w cut, ?_⟩
  intro c inside
  rcases cutRun_chars w cut c inside with none | inRun
  · cases none
  · exact runs_alphanumeric _ run among c inRun

theorem lower_ne_nil {w : List Char} (some : w ≠ []) : lower w ≠ [] := by
  fun_cases lower w with
  | case1 => contradiction
  | case2 => simp
  | case3 c => exact Text.toLowerCase_ne_nil c
  | case4 c rest => simp [Text.toLowerCase_ne_nil]

theorem lower_small {w : List Char} (letters : ∀ c ∈ w, isAlphanumeric c = true) :
    ∀ d ∈ lower w, d.toNat < 128 → isSmall d = true := by
  fun_induction lower w with
  | case1 => simp
  | case2 =>
    intro d there ascii
    cases List.mem_singleton.mp there
    exact absurd ascii (by decide)
  | case3 c =>
    intro d there ascii
    exact Text.toLowerCase_small (letters c List.mem_cons_self) there ascii
  | case4 c rest _ ih =>
    intro d there ascii
    rcases List.mem_append.mp there with here | later
    · exact Text.toLowerCase_small (letters c List.mem_cons_self) here ascii
    · exact ih (fun e inside => letters e (List.mem_cons_of_mem _ inside)) d later ascii

theorem mem_intercalate {separator w : List Char} {ws : List (List Char)} (there : w ∈ ws)
    {c : Char} (inside : c ∈ w) : c ∈ List.intercalate separator ws := by
  induction ws with
  | nil => cases there
  | cons first rest ih =>
    cases rest with
    | nil =>
      cases List.mem_singleton.mp there
      simpa using inside
    | cons next others =>
      rw [List.intercalate_cons_cons]
      rcases List.mem_cons.mp there with rfl | later
      · simp [inside]
      · simp [ih later]

theorem snake_small {name : String} (ascii : Ascii (snake name)) :
    ∀ w ∈ (words name).map lower, SmallWord w := by
  intro w there
  obtain ⟨v, among, rfl⟩ := List.mem_map.mp there
  obtain ⟨some, letters⟩ := words_alphanumeric name v among
  refine ⟨lower_ne_nil some, ?_⟩
  intro c inside
  apply lower_small letters c inside
  apply ascii c
  rw [snake, String.toList_ofList]
  exact mem_intercalate there inside

theorem cutRun_small {mode : Mode} {word run : List Char} (some : run ≠ [])
    (small : ∀ c ∈ run, isSmall c = true) :
    cutRun mode word run = [word.reverse ++ run] := by
  fun_induction cutRun mode word run with
  | case1 => contradiction
  | case2 => simp
  | case3 mode word c next rest mode' ends ih =>
    have capital := (Text.isSmall_facts (small next (by simp))).2.1
    simp [capital] at ends
  | case4 mode word c next rest mode' _ ends ih =>
    have capital := (Text.isSmall_facts (small c (by simp))).2.1
    simp [capital] at ends
  | case5 mode word c next rest mode' _ _ ih =>
    rw [ih (by simp) fun d inside => small d (List.mem_cons_of_mem _ inside)]
    simp

theorem runs_intercalate {ws : List (List Char)} (small : ∀ w ∈ ws, SmallWord w) :
    (runs (List.intercalate ['_'] ws)).flatMap (cutRun .start []) = ws := by
  have apart (w : List Char) (among : w ∈ ws) : ∀ c ∈ w, (!isAlphanumeric c) = false := by
    intro c inside
    simp [(Text.isSmall_facts ((small w among).2 c inside)).1]
  have whole (w : List Char) (among : w ∈ ws) : cutRun .start [] w = [w] :=
    cutRun_small (small w among).1 (small w among).2
  clear small
  unfold runs
  induction ws with
  | nil => rfl
  | cons first rest ih =>
    have one := whole first List.mem_cons_self
    have letters := apart first List.mem_cons_self
    cases rest with
    | nil =>
      rw [List.intercalate_singleton, List.splitOnP_eq_singleton letters]
      simpa using one
    | cons next others =>
      have more := ih (fun w among => apart w (List.mem_cons_of_mem _ among))
        fun w among => whole w (List.mem_cons_of_mem _ among)
      rw [List.intercalate_cons_cons, List.append_assoc, List.singleton_append,
        List.splitOnP_append_cons_of_forall_mem letters _ (by decide), List.flatMap_cons, one, more]
      rfl

theorem upper_small {w : List Char} (small : ∀ c ∈ w, isSmall c = true) :
    upper w = w.map Char.toUpper := by
  unfold upper
  induction w with
  | nil => rfl
  | cons c rest ih =>
    rw [List.flatMap_cons, (Text.isSmall_facts (small c List.mem_cons_self)).2.2.1,
      ih fun d inside => small d (List.mem_cons_of_mem _ inside)]
    rfl

theorem intercalate_upper {ws : List (List Char)} (small : ∀ w ∈ ws, SmallWord w) :
    List.intercalate ['_'] (ws.map upper) = (List.intercalate ['_'] ws).map Char.toUpper := by
  induction ws with
  | nil => rfl
  | cons first rest ih =>
    have capitals := upper_small (small first List.mem_cons_self).2
    cases rest with
    | nil => simp [capitals]
    | cons next others =>
      have more := ih fun w among => small w (List.mem_cons_of_mem _ among)
      rw [List.map_cons] at more
      rw [List.map_cons, List.map_cons, List.intercalate_cons_cons, List.intercalate_cons_cons,
        more, capitals]
      simp

theorem intercalate_chars {ws : List (List Char)} (small : ∀ w ∈ ws, SmallWord w) :
    (∀ c ∈ List.intercalate ['_'] ws, isSmall c = true ∨ c = '_') ∧
      ∀ c ∈ (List.intercalate ['_'] ws).getLast?, isSmall c = true := by
  induction ws with
  | nil => simp
  | cons first rest ih =>
    obtain ⟨some, chars⟩ := small first List.mem_cons_self
    cases rest with
    | nil =>
      rw [List.intercalate_singleton]
      exact ⟨fun c there => .inl (chars c there), fun c last => chars c (List.mem_of_getLast? last)⟩
    | cons next others =>
      obtain ⟨inside, last⟩ := ih fun w among => small w (List.mem_cons_of_mem _ among)
      obtain ⟨d, inNext⟩ := List.exists_mem_of_ne_nil _ (small next (by simp)).1
      have more : List.intercalate ['_'] (next :: others) ≠ [] :=
        List.ne_nil_of_mem (mem_intercalate List.mem_cons_self inNext)
      rw [List.intercalate_cons_cons]
      constructor
      · intro c there
        simp only [List.mem_append, List.mem_singleton] at there
        rcases there with (here | separator) | later
        · exact .inl (chars c here)
        · exact .inr separator
        · exact inside c later
      · rw [List.getLast?_append]
        rw [List.getLast?_eq_some_getLast more] at last ⊢
        exact last

theorem shoutySnake_snake {name : String} (ascii : Ascii (snake name)) :
    shoutySnake (snake name) = String.ofList ((snake name).toList.map Char.toUpper) := by
  have small := snake_small ascii
  have same : words (snake name) = (words name).map lower := by
    rw [words, snake, String.toList_ofList]
    exact runs_intercalate small
  rw [shoutySnake, same, intercalate_upper small, snake, String.toList_ofList]

theorem snake_chars {name : String} (ascii : Ascii (snake name)) :
    (∀ c ∈ (snake name).toList, c.toUpper.toLower = c) ∧
      ∀ c ∈ (snake name).toList.getLast?, c ≠ '_' := by
  obtain ⟨inside, last⟩ := intercalate_chars (snake_small ascii)
  rw [snake, String.toList_ofList]
  constructor
  · intro c there
    rcases inside c there with small | rfl
    · exact (Text.isSmall_facts small).2.2.2
    · rfl
  · intro c there same
    have small := last c there
    rw [same] at small
    exact absurd small (by decide)

theorem shoutySnake_apart {a b : String} (first : Ascii (snake a)) (second : Ascii (snake b))
    (same : shoutySnake (snake a) = shoutySnake (snake b)) : snake a = snake b := by
  rw [shoutySnake_snake first, shoutySnake_snake second, String.ofList_inj] at same
  have back {name : String} (ascii : Ascii (snake name)) :
      ((snake name).toList.map Char.toUpper).map Char.toLower = (snake name).toList := by
    rw [List.map_map]
    exact (List.map_congr_left (snake_chars ascii).1).trans (List.map_id _)
  apply String.toList_inj.mp
  rw [← back first, ← back second, same]

end WireSchema.Casing
