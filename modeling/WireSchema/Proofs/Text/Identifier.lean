import WireSchema.Proofs.Text.Casing
import WireSchema.Text.DecimalDigit
import WireSchema.Text.WordChar

namespace WireSchema.Text

def isLetter (c : Char) : Bool :=
  isAlphanumeric c && isWordChar c && !isDecimalDigit c

def startsIdentifier (c : Char) : Bool :=
  isLetter c || c == '_'

def continuesIdentifier (c : Char) : Bool :=
  startsIdentifier c || isDecimalDigit c

def isIdentifier (name : String) : Bool :=
  match name.toList with
  | [] => false
  | first :: rest => startsIdentifier first && rest.all continuesIdentifier

-- A letter or digit that is still one, of the same sort, in lower and in upper case.
def isSteady (c : Char) : Bool :=
  (isLetter c || isDecimalDigit c) && (toLowerCase c ++ toUpperCase c).all fun d =>
    isLetter d == isLetter c && isDecimalDigit d == isDecimalDigit c

def Steady (text : String) : Prop :=
  ∀ c ∈ text.toList, isAlphanumeric c = true → isSteady c = true

def BeginsWithLetter (text : String) : Prop :=
  ∃ c ∈ text.toList.find? isAlphanumeric, isLetter c = true

section

variable {c d : Char} {name : String}

theorem isIdentifier_exact : isIdentifier name = true ↔
    (∃ c ∈ name.toList.head?, startsIdentifier c = true) ∧
      ∀ c ∈ name.toList, continuesIdentifier c = true := by
  unfold isIdentifier
  cases name.toList with
  | nil => simp
  | cons first rest =>
    have continues (start : startsIdentifier first = true) : continuesIdentifier first = true := by
      simp [continuesIdentifier, start]
    simp only [Bool.and_eq_true, List.all_eq_true, List.head?_cons, Option.mem_some_iff,
      exists_eq_left', List.forall_mem_cons]
    exact ⟨fun ⟨start, others⟩ => ⟨start, continues start, others⟩,
      fun ⟨start, _, others⟩ => ⟨start, others⟩⟩

theorem continues_underscore : ∀ c ∈ ['_'], continuesIdentifier c = true := by
  simp [continuesIdentifier, startsIdentifier]

theorem isIdentifier_underscore (some : name ≠ "") :
    isIdentifier (name ++ "_") = isIdentifier name := by
  have behind : (name ++ "_").toList = name.toList ++ ['_'] := String.toList_append
  obtain ⟨c, rest, parts⟩ := List.exists_cons_of_ne_nil (mt String.toList_eq_nil_iff.mp some)
  rw [Bool.eq_iff_iff, isIdentifier_exact, isIdentifier_exact, behind, List.forall_mem_append]
  exact and_congr (by simp [parts]) (and_iff_left continues_underscore)

theorem isSteady_ascii (ascii : c.toNat < 128) (letter : isAlphanumeric c = true) :
    isSteady c = true := by
  have steady := ascii_chars (p := fun c => !isAlphanumeric c || isSteady c) (by decide +kernel)
    ascii
  simpa [letter] using steady

theorem steady_of_ascii (ascii : Ascii name) : Steady name :=
  fun c there letter => isSteady_ascii (ascii c there) letter

theorem toUpperCase_ne_nil (c : Char) : toUpperCase c ≠ [] := by
  have long : ∀ entry ∈ longUpper, entry.2 ≠ [] := by decide +kernel
  unfold toUpperCase
  split
  · simp
  · split
    · rename_i points found
      obtain ⟨before, after, parts, _⟩ := List.lookup_eq_some_iff.mp found
      simpa using long (c.toNat, points) (by simp [parts])
    · simp

end

end WireSchema.Text

namespace WireSchema.Casing

open Text (continuesIdentifier isAlphanumeric isDecimalDigit isIdentifier isLetter isSteady
  startsIdentifier BeginsWithLetter Steady)

-- Cutting a name into words drops what separates them and nothing else, so the identifier begins
-- with what the first letter or number of the name becomes.

theorem cutRun_flatten {mode : Mode} {word run : List Char} (some : run ≠ []) :
    (cutRun mode word run).flatten = word.reverse ++ run := by
  fun_induction cutRun mode word run with
  | case1 => contradiction
  | case2 => simp
  | case3 mode word c next rest mode' ends ih => simp [ih]
  | case4 mode word c next rest mode' _ ends ih => simp [ih]
  | case5 mode word c next rest mode' _ _ ih => simp [ih]

theorem runs_flatten (text : List Char) : (runs text).flatten = text.filter isAlphanumeric := by
  unfold runs
  induction text with
  | nil => simp [List.splitOnP_nil]
  | cons c rest ih =>
    rw [List.splitOnP_cons_eq_if_modifyHead, List.filter_cons]
    by_cases letter : isAlphanumeric c = true
    · simp only [letter, Bool.not_true, Bool.false_eq_true, if_false, if_true]
      cases cut : rest.splitOnP fun c => !isAlphanumeric c with
      | nil => exact absurd cut (List.splitOnP_ne_nil _ _)
      | cons first others =>
        rw [cut] at ih
        simp [← ih]
    · simp only [letter, Bool.not_false, if_true, Bool.false_eq_true, if_false]
      simpa using ih

theorem words_flatten (text : String) :
    (words text).flatten = text.toList.filter isAlphanumeric := by
  rw [← runs_flatten, words]
  induction runs text.toList with
  | nil => rfl
  | cons run rest ih =>
    rw [List.flatMap_cons, List.flatten_append, ih, List.flatten_cons]
    congr 1
    by_cases some : run = []
    · simp [some, cutRun]
    · have whole : (cutRun .start [] run).flatten = run := cutRun_flatten some
      exact whole

def Fitting (pieces : List (List Char)) : Prop :=
  (∃ c ∈ pieces.flatten.head?, startsIdentifier c = true) ∧
    ∀ piece ∈ pieces, ∀ c ∈ piece, continuesIdentifier c = true

section

variable {separator : List Char} {pieces : List (List Char)} {text : String}

theorem intercalate_parts {c : Char} (there : c ∈ List.intercalate separator pieces) :
    c ∈ separator ∨ ∃ piece ∈ pieces, c ∈ piece := by
  induction pieces with
  | nil => cases there
  | cons first rest ih =>
    cases rest with
    | nil =>
      rw [List.intercalate_singleton] at there
      exact .inr ⟨first, List.mem_cons_self, there⟩
    | cons next others =>
      rw [List.intercalate_cons_cons, List.mem_append, List.mem_append] at there
      rcases there with (here | between) | later
      · exact .inr ⟨first, List.mem_cons_self, here⟩
      · exact .inl between
      · rcases ih later with between | ⟨piece, among, inside⟩
        · exact .inl between
        · exact .inr ⟨piece, List.mem_cons_of_mem _ among, inside⟩

theorem intercalate_head? (some : ∀ piece ∈ pieces, piece ≠ []) :
    (List.intercalate separator pieces).head? = pieces.flatten.head? := by
  cases pieces with
  | nil => rfl
  | cons first rest =>
    obtain ⟨c, others, rfl⟩ := List.exists_cons_of_ne_nil (some first List.mem_cons_self)
    cases rest with
    | nil => simp
    | cons next more => simp [List.intercalate_cons_cons]

theorem isIdentifier_joined (between : ∀ c ∈ separator, continuesIdentifier c = true)
    (some : ∀ piece ∈ pieces, piece ≠ []) :
    isIdentifier (String.ofList (List.intercalate separator pieces)) = true ↔ Fitting pieces := by
  rw [Text.isIdentifier_exact, String.toList_ofList, intercalate_head? some, Fitting]
  refine and_congr_right fun _ => ⟨fun all piece among c inside => ?_, fun each c there => ?_⟩
  · exact all c (mem_intercalate among inside)
  · rcases intercalate_parts there with separates | ⟨piece, among, inside⟩
    · exact between c separates
    · exact each piece among c inside

theorem intercalate_empty : List.intercalate [] pieces = pieces.flatten := by
  induction pieces with
  | nil => rfl
  | cons first rest ih =>
    cases rest with
    | nil => simp
    | cons next others =>
      rw [List.intercalate_cons_cons, ih]
      simp

theorem capitalized_ne_nil {w : List Char} (some : w ≠ []) : capitalized w ≠ [] := by
  cases w with
  | nil => contradiction
  | cons c rest => simp [capitalized, Text.toUpperCase_ne_nil]

theorem isIdentifier_upperCamel :
    isIdentifier (upperCamel text) = true ↔ Fitting ((words text).map capitalized) := by
  have joined : upperCamel text =
      String.ofList (List.intercalate [] ((words text).map capitalized)) := by
    rw [intercalate_empty, upperCamel, List.flatMap]
  rw [joined]
  apply isIdentifier_joined (by simp)
  intro piece among
  obtain ⟨w, there, rfl⟩ := List.mem_map.mp among
  exact capitalized_ne_nil (words_alphanumeric text w there).1

theorem isIdentifier_snake :
    isIdentifier (snake text) = true ↔ Fitting ((words text).map lower) := by
  apply isIdentifier_joined Text.continues_underscore
  intro piece among
  obtain ⟨w, there, rfl⟩ := List.mem_map.mp among
  exact lower_ne_nil (words_alphanumeric text w there).1

end

def SameSort (c d : Char) : Prop :=
  isLetter d = isLetter c ∧ isDecimalDigit d = isDecimalDigit c

section

variable {c d : Char} {w : List Char} {text : String}

theorem steady_cased (steady : isSteady c = true)
    (there : d ∈ Text.toLowerCase c ∨ d ∈ Text.toUpperCase c) : SameSort c d := by
  obtain ⟨_, all⟩ := Bool.and_eq_true_iff.mp steady
  have same := List.all_eq_true.mp all d (List.mem_append.mpr there)
  simpa [SameSort] using same

-- The sigma that ends a word is the only letter whose lower case depends on its place.
theorem lower_sorts (steady : ∀ c ∈ w, isSteady c = true) :
    ∀ d ∈ lower w, ∃ c ∈ w, SameSort c d := by
  fun_induction lower w with
  | case1 => simp
  | case2 =>
    intro d there
    cases List.mem_singleton.mp there
    exact ⟨'Σ', List.mem_singleton_self _, by decide +kernel, by decide +kernel⟩
  | case3 c =>
    intro d there
    exact ⟨c, List.mem_singleton_self _, steady_cased (steady c List.mem_cons_self) (.inl there)⟩
  | case4 c rest _ ih =>
    intro d there
    rcases List.mem_append.mp there with here | later
    · exact ⟨c, List.mem_cons_self, steady_cased (steady c List.mem_cons_self) (.inl here)⟩
    · obtain ⟨e, among, same⟩ := ih (fun e among => steady e (List.mem_cons_of_mem _ among)) d later
      exact ⟨e, List.mem_cons_of_mem _ among, same⟩

theorem capitalized_sorts (steady : ∀ c ∈ w, isSteady c = true) :
    ∀ d ∈ capitalized w, ∃ c ∈ w, SameSort c d := by
  cases w with
  | nil => simp [capitalized]
  | cons c rest =>
    intro d there
    rcases List.mem_append.mp there with here | later
    · exact ⟨c, List.mem_cons_self, steady_cased (steady c List.mem_cons_self) (.inr here)⟩
    · obtain ⟨e, among, same⟩ :=
        lower_sorts (fun e among => steady e (List.mem_cons_of_mem _ among)) d later
      exact ⟨e, List.mem_cons_of_mem _ among, same⟩

-- A change of case that keeps the sorts of a word's characters, and that of the first in its place.
structure Keeps (change : List Char → List Char) : Prop where
  each {w : List Char} : (∀ c ∈ w, isSteady c = true) → ∀ d ∈ change w, ∃ c ∈ w, SameSort c d
  first {c : Char} {rest : List Char} : isSteady c = true →
    ∃ d ∈ (change (c :: rest)).head?, SameSort c d

theorem keeps_lower : Keeps lower where
  each := lower_sorts
  first {c rest} steady := by
    cases rest with
    | nil =>
      obtain ⟨d, others, made⟩ := List.exists_cons_of_ne_nil (lower_ne_nil (List.cons_ne_nil c []))
      obtain ⟨e, alone, same⟩ := lower_sorts (w := [c]) (by simpa using steady) d (by simp [made])
      cases List.mem_singleton.mp alone
      exact ⟨d, by simp [made], same⟩
    | cons next others =>
      obtain ⟨d, more, made⟩ := List.exists_cons_of_ne_nil (Text.toLowerCase_ne_nil c)
      exact ⟨d, by simp [lower, made], steady_cased steady (.inl (by simp [made]))⟩

theorem keeps_capitalized : Keeps capitalized where
  each := capitalized_sorts
  first {c rest} steady := by
    obtain ⟨d, more, made⟩ := List.exists_cons_of_ne_nil (Text.toUpperCase_ne_nil c)
    exact ⟨d, by simp [capitalized, made], steady_cased steady (.inr (by simp [made]))⟩

theorem SameSort.continues (same : SameSort c d) (steady : isSteady c = true) :
    continuesIdentifier d = true := by
  obtain ⟨sort, _⟩ := Bool.and_eq_true_iff.mp steady
  simp only [continuesIdentifier, startsIdentifier, same.1, same.2]
  grind

theorem SameSort.starts (same : SameSort c d) (steady : isSteady c = true) :
    startsIdentifier d = isLetter c := by
  obtain ⟨sort, _⟩ := Bool.and_eq_true_iff.mp steady
  have letter : d ≠ '_' := by
    rintro rfl
    rw [← same.1, ← same.2] at sort
    exact absurd sort (by decide +kernel)
  simp [startsIdentifier, same.1, letter]

theorem fitting_steady {change : List Char → List Char} (keeps : Keeps change)
    (steady : Steady text) : Fitting ((words text).map change) ↔ BeginsWithLetter text := by
  have all : ∀ w ∈ words text, ∀ c ∈ w, isSteady c = true := by
    intro w there c inside
    have kept : c ∈ text.toList.filter isAlphanumeric := by
      rw [← words_flatten]
      exact List.mem_flatten.mpr ⟨w, there, inside⟩
    obtain ⟨here, letter⟩ := List.mem_filter.mp kept
    exact steady c here letter
  have fits : ∀ piece ∈ (words text).map change, ∀ d ∈ piece, continuesIdentifier d = true := by
    intro piece among d inside
    obtain ⟨w, there, rfl⟩ := List.mem_map.mp among
    obtain ⟨c, member, same⟩ := keeps.each (all w there) d inside
    exact same.continues (all w there c member)
  rw [Fitting, and_iff_left fits, BeginsWithLetter, ← List.head?_filter, ← words_flatten]
  cases cut : words text with
  | nil => simp
  | cons w rest =>
    obtain ⟨some, _⟩ := words_alphanumeric text w (by simp [cut])
    obtain ⟨c, others, rfl⟩ := List.exists_cons_of_ne_nil some
    have here : isSteady c = true := all _ (by rw [cut]; exact List.mem_cons_self) c
      List.mem_cons_self
    obtain ⟨d, first, same⟩ : ∃ d ∈ (change (c :: others)).head?, SameSort c d := keeps.first here
    obtain ⟨more, made⟩ := List.head?_eq_some_iff.mp first
    simp [made, same.starts here]

end

end WireSchema.Casing
