import WireSchema.Proofs.Source.Matching
import WireSchema.Source.Token
import Mathlib.Data.List.DropRight

namespace WireSchema.Source

-- A text that cannot be read is reported at the first character that belongs to no piece, with
-- everything up to the next piece.

-- Lines count the newlines before, columns the bytes since the last of them.
def Position.behind (before : List Char) : Position :=
  { line := 1 + before.count '\n'
    column := 1 + (String.ofList (before.rtakeWhile (· != '\n'))).utf8ByteSize }

def Unmatched (before after : List Char) : Prop :=
  Pattern.piece.ends ⟨before.getLast?, after⟩ = []

structure Matched (before piece after : List Char) : Prop where
  nonempty : piece ≠ []
  first : (Pattern.piece.ends ⟨before.getLast?, piece ++ after⟩).head? =
    some ⟨(before ++ piece).getLast?, after⟩

inductive Skipped : (piece after : List Char) → Prop where
  | blanks {piece after : List Char} (nonempty : piece ≠ [])
      (all : ∀ c ∈ piece, Text.isBlank c = true) : Skipped piece after
  | comment {mark line after : List Char} (marks : mark = ['/', '/'] ∨ mark = ['#'])
      (single : '\n' ∉ line) (ends : ∀ c ∈ after.head?, c = '\n') : Skipped (mark ++ line) after

inductive Pieces (kind : (piece after : List Char) → Prop) :
    (before text after : List Char) → Prop where
  | nil {before after : List Char} : Pieces kind before [] after
  | cons {before piece text after : List Char} (found : Matched before piece (text ++ after))
      (fits : kind piece (text ++ after)) (more : Pieces kind (before ++ piece) text after) :
      Pieces kind before (piece ++ text) after

inductive Cuts : (before text : List Char) → List Token → Prop where
  | last {before gap : List Char} (skipped : Pieces Skipped before gap []) :
      Cuts before gap [⟨"", .behind (before ++ gap)⟩]
  | next {before gap piece rest : List Char} {tokens : List Token}
      (skipped : Pieces Skipped before gap (piece ++ rest))
      (found : Matched (before ++ gap) piece rest) (solid : ¬Skipped piece rest)
      (more : Cuts (before ++ gap ++ piece) rest tokens) :
      Cuts before (gap ++ (piece ++ rest))
        (⟨String.ofList piece, .behind (before ++ gap)⟩ :: tokens)

structure Stray (before stray after : List Char) : Prop where
  nonempty : stray ≠ []
  silent : ∀ front back, stray = front ++ back → back ≠ [] →
    Unmatched (before ++ front) (back ++ after)
  ends : after ≠ [] → ¬Unmatched (before ++ stray) after

def punctuationMarks : List Char :=
  ['=', ';', '\x7b', '\x7d', '[', ']', ',']

inductive Stops : (before text : List Char) → SyntaxError → Prop where
  | stray {before scanned stray after : List Char}
      (pieces : Pieces (fun _ _ => True) before scanned (stray ++ after))
      (silent : Stray (before ++ scanned) stray after) :
      Stops before (scanned ++ (stray ++ after))
        ⟨.strayText (String.ofList stray), .behind (before ++ scanned)⟩

section

variable {before piece rest text after : List Char}

theorem Position.behind_newline :
    Position.behind (before ++ ['\n']) = ⟨(Position.behind before).line + 1, 1⟩ := by
  simp only [behind, List.count_append, List.rtakeWhile_concat]
  rfl

theorem Position.behind_concat {c : Char} (inside : c ≠ '\n') :
    Position.behind (before ++ [c]) =
      ⟨(Position.behind before).line, (Position.behind before).column + c.utf8Size⟩ := by
  simp [behind, inside, Nat.add_assoc]

theorem Position.behind_after :
    (Position.behind before).after piece = Position.behind (before ++ piece) := by
  induction piece generalizing before with
  | nil => simp [after]
  | cons c rest ih =>
    rw [List.append_cons, ← ih, after]
    split
    · rename_i newline
      rw [newline, behind_newline]
    · rename_i inside
      rw [behind_concat inside]

theorem unmatched_exact :
    Unmatched before after ↔ lexemeLength? before.getLast? after = none := by
  rw [Unmatched, ← List.head?_eq_none_iff, Pattern.first_piece, Option.map_eq_none_iff]

theorem lexemeLength?_pos {previous : Option Char} {n : Nat}
    (found : lexemeLength? previous text = some n) : 0 < n ∧ 0 < text.length := by
  have first : (Pattern.piece.ends ⟨previous, text⟩).head? =
      some ((Place.mk previous text).skip n) := by
    rw [Pattern.first_piece, found]
    rfl
  have shorter := Pattern.takes_piece _ _ (List.mem_of_mem_head? first)
  simp only [Place.skip, List.length_drop] at shorter
  omega

theorem Matched.last (found : Matched before piece rest) :
    (before ++ piece).getLast? = piece.getLast? :=
  List.getLast?_append_of_ne_nil _ found.nonempty

theorem matched_take {n : Nat} (found : lexemeLength? before.getLast? text = some n) :
    Matched before (text.take n) (text.drop n) := by
  refine ⟨?_, ?_⟩
  · have positive := lexemeLength?_pos found
    refine List.length_pos_iff.mp ?_
    rw [List.length_take]
    omega
  · rw [List.take_append_drop, Pattern.first_piece, found, List.getLast?_append]
    rfl

theorem strayText_exact (before text : List Char) :
    ∃ after, text = strayText before.getLast? text ++ after ∧
      (∀ front back, strayText before.getLast? text = front ++ back → back ≠ [] →
        Unmatched (before ++ front) (back ++ after)) ∧
      (after ≠ [] → ¬Unmatched (before ++ strayText before.getLast? text) after) := by
  induction text generalizing before with
  | nil => exact ⟨[], rfl, by simp [strayText], by simp⟩
  | cons c rest ih =>
    cases found : lexemeLength? before.getLast? (c :: rest) with
    | some n =>
      have nothing : strayText before.getLast? (c :: rest) = [] := by
        simp [strayText, found]
      rw [nothing]
      refine ⟨c :: rest, rfl, ?_, ?_⟩
      · intro front back parts nonempty
        exact absurd (List.append_eq_nil_iff.mp parts.symm).2 nonempty
      · intro _ silent
        rw [List.append_nil] at silent
        cases found.symm.trans (unmatched_exact.mp silent)
    | none =>
      have further : strayText before.getLast? (c :: rest) =
          c :: strayText (before ++ [c]).getLast? rest := by
        simp [strayText, found]
      obtain ⟨after, parts, silent, ends⟩ := ih (before ++ [c])
      rw [further]
      refine ⟨after, ?_, ?_, ?_⟩
      · rw [List.cons_append, ← parts]
      · intro front back same nonempty
        cases front with
        | nil =>
          rw [List.nil_append] at same
          rw [List.append_nil, ← same, List.cons_append, ← parts]
          exact unmatched_exact.mpr found
        | cons d front =>
          obtain ⟨rfl, tail⟩ := List.cons.inj same
          rw [List.append_cons]
          exact silent front back tail nonempty
      · rw [List.append_cons]
        exact ends

theorem isPunctuation_exact {c : Char} : isPunctuation c = true ↔ c ∈ punctuationMarks := by
  simp [isPunctuation, punctuationMarks, or_assoc]

theorem punctuation_test (test : Char → Bool) {c : Char} (mark : isPunctuation c = true)
    (each : punctuationMarks.all test = true) : test c = true :=
  List.all_eq_true.mp each c (isPunctuation_exact.mp mark)

theorem quotedLength?_none {c : Char} (quote : c ≠ '"') : quotedLength? (c :: rest) = none := by
  simp [quotedLength?, quote]

theorem numberLength?_none {c : Char} (minus : c ≠ '-') (digit : Text.isDecimalDigit c = false) :
    numberLength? (c :: rest) = none := by
  simp [numberLength?, minus, unsignedLength?, digitCount, digit]

theorem arrayLength?_none {c : Char} (letter : c ≠ 'a') : arrayLength? (c :: rest) = none := by
  simp [arrayLength?, letter]

theorem lexemeLength?_other {previous : Option Char} {c : Char} (quote : c ≠ '"') (minus : c ≠ '-')
    (digit : Text.isDecimalDigit c = false) (mark : isPunctuation c = false)
    (start : isNameStart c = false) :
    lexemeLength? previous (c :: rest) =
      (commentLength? (c :: rest)).or (blankLength? (c :: rest)) := by
  have letter : c ≠ 'a' := by
    rintro rfl
    exact absurd start (by decide)
  have punctuation : punctuationLength? (c :: rest) = none := by simp [punctuationLength?, mark]
  have path : pathLength? previous (c :: rest) = none := by
    simp [pathLength?, pathLength, nameLength, start]
  simp only [lexemeLength?, quotedLength?_none quote, numberLength?_none minus digit,
    arrayLength?_none letter, punctuation, path, Option.none_or]

theorem lexemeLength?_blank {previous : Option Char} {c : Char} (blank : Text.isBlank c = true) :
    lexemeLength? previous (c :: rest) = some ((c :: rest).takeWhile Text.isBlank).length := by
  have word := Text.not_isWordChar_of_blank blank
  have other {d : Char} (solid : Text.isBlank d = false) : c ≠ d := by
    rintro rfl
    cases blank.symm.trans solid
  have digit : Text.isDecimalDigit c = false := by
    rw [Bool.eq_false_iff]
    intro digit
    cases word.symm.trans (Text.isWordChar_of_digit digit)
  have start : isNameStart c = false := by
    rw [Bool.eq_false_iff]
    intro start
    cases word.symm.trans (isWordChar_of_start start)
  have mark : isPunctuation c = false := by
    rw [Bool.eq_false_iff]
    intro mark
    have solid := punctuation_test (fun c => !Text.isBlank c) mark (by decide)
    rw [blank] at solid
    cases solid
  have comment : commentLength? (c :: rest) = none := by
    have slash : c ≠ '/' := other (by decide)
    have hash : c ≠ '#' := other (by decide)
    simp [commentLength?, slash, hash]
  rw [lexemeLength?_other (other (by decide)) (other (by decide)) digit mark start, comment,
    Option.none_or, blankLength?]
  simp [blank]

theorem lexemeLength?_slashes {previous : Option Char} :
    lexemeLength? previous ('/' :: '/' :: rest) =
      some ((rest.takeWhile (· != '\n')).length + 2) := by
  rw [lexemeLength?_other (by decide) (by decide) (by decide) (by decide) (by decide)]
  rfl

theorem lexemeLength?_hash {previous : Option Char} :
    lexemeLength? previous ('#' :: rest) = some ((rest.takeWhile (· != '\n')).length + 1) := by
  rw [lexemeLength?_other (by decide) (by decide) (by decide) (by decide) (by decide)]
  rfl

theorem run_exact (test : Char → Bool) (text : List Char) :
    (∀ c ∈ text.take (text.takeWhile test).length, test c = true) ∧
      ∀ c ∈ (text.drop (text.takeWhile test).length).head?, test c = false := by
  induction text with
  | nil => simp
  | cons c rest ih =>
    by_cases inside : test c = true
    · rw [List.takeWhile_cons_of_pos inside, List.length_cons, List.take_succ_cons,
        List.drop_succ_cons]
      exact ⟨List.forall_mem_cons.mpr ⟨inside, ih.1⟩, ih.2⟩
    · simp [inside]

theorem skipped_line {mark : List Char} (marks : mark = ['/', '/'] ∨ mark = ['#']) :
    Skipped (mark ++ rest.take (rest.takeWhile (· != '\n')).length)
      (rest.drop (rest.takeWhile (· != '\n')).length) := by
  obtain ⟨inside, ends⟩ := run_exact (· != '\n') rest
  refine .comment marks ?_ ?_
  · intro newline
    exact absurd (inside _ newline) (by decide)
  · intro c first
    simpa using ends c first

theorem isSkipped_of_blank {c : Char} (blank : Text.isBlank c = true) :
    isSkipped (c :: rest) = true := by
  unfold isSkipped
  split
  · rfl
  · rfl
  · rename_i same
    cases same
    exact blank
  · contradiction

theorem isSkipped_exact {previous : Option Char} {n : Nat}
    (found : lexemeLength? previous text = some n) :
    isSkipped (text.take n) = true ↔ Skipped (text.take n) (text.drop n) := by
  have whole (front : List Char) {line : List Char} (start : text.take n = front ++ line) :
      text = front ++ (line ++ text.drop n) := by
    rw [← List.append_assoc, ← start, List.take_append_drop]
  constructor
  · intro skipped
    -- Each mark tells which class has found the piece.
    unfold isSkipped at skipped
    split at skipped
    · rename_i line start
      obtain ⟨rest, rfl⟩ : ∃ rest, text = '/' :: '/' :: rest := ⟨_, whole ['/', '/'] start⟩
      cases lexemeLength?_slashes.symm.trans found
      exact skipped_line (.inl rfl)
    · rename_i line start
      obtain ⟨rest, rfl⟩ : ∃ rest, text = '#' :: rest := ⟨_, whole ['#'] start⟩
      cases lexemeLength?_hash.symm.trans found
      exact skipped_line (.inr rfl)
    · rename_i c line _ _ start
      obtain ⟨rest, rfl⟩ : ∃ rest, text = c :: rest := ⟨_, whole [c] start⟩
      cases (lexemeLength?_blank skipped).symm.trans found
      refine .blanks ?_ (run_exact ..).1
      rw [start]
      exact List.cons_ne_nil _ _
    · cases skipped
  · intro skipped
    generalize text.take n = piece at skipped
    cases skipped with
    | blanks nonempty all =>
      obtain ⟨c, rest, rfl⟩ := List.exists_cons_of_ne_nil nonempty
      exact isSkipped_of_blank (all c (List.mem_cons_self ..))
    | comment marks _ _ =>
      rcases marks with rfl | rfl <;> rfl

theorem Cuts.skip {tokens : List Token} (found : Matched before piece rest)
    (skipped : Skipped piece rest) (more : Cuts (before ++ piece) rest tokens) :
    Cuts before (piece ++ rest) tokens := by
  cases more with
  | last gap =>
    rw [List.append_assoc]
    exact .last (.cons (by rwa [List.append_nil]) (by rwa [List.append_nil]) gap)
  | @next _ gap token rest tokens gaps first solid more =>
    rw [List.append_assoc before] at first more ⊢
    rw [← List.append_assoc piece]
    exact .next (.cons found skipped gaps) first solid more

theorem Cuts.keep {tokens : List Token} (found : Matched before piece rest)
    (solid : ¬Skipped piece rest) (more : Cuts (before ++ piece) rest tokens) :
    Cuts before (piece ++ rest) (⟨String.ofList piece, .behind before⟩ :: tokens) := by
  have cut : Cuts before ([] ++ (piece ++ rest))
      (⟨String.ofList piece, .behind (before ++ [])⟩ :: tokens) :=
    .next .nil (by rwa [List.append_nil]) solid (by rwa [List.append_nil])
  rwa [List.append_nil, List.nil_append] at cut

theorem Cuts.closes {tokens : List Token} (cuts : Cuts before text tokens) :
    tokens.getLast? = some ⟨"", .behind (before ++ text)⟩ := by
  induction cuts with
  | last _ => rfl
  | next _ _ _ _ closes =>
    rw [List.getLast?_cons, closes]
    simp only [List.append_assoc, Option.getD_some]

theorem Stops.further {e : SyntaxError} (found : Matched before piece rest)
    (more : Stops (before ++ piece) rest e) : Stops before (piece ++ rest) e := by
  cases more with
  | stray pieces silent =>
    rw [List.append_assoc before] at silent ⊢
    rw [← List.append_assoc piece]
    exact .stray (.cons found trivial pieces) silent

theorem Stops.here (nonempty : text ≠ []) (silent : lexemeLength? before.getLast? text = none) :
    Stops before text
      ⟨.strayText (String.ofList (strayText before.getLast? text)), .behind before⟩ := by
  obtain ⟨after, parts, inside, ends⟩ := strayText_exact before text
  have stops : Stray (before ++ []) (strayText before.getLast? text) after := by
    rw [List.append_nil]
    refine ⟨?_, inside, ends⟩
    intro nothing
    rw [nothing, List.nil_append] at parts
    rw [nothing, List.append_nil, ← parts] at ends
    exact ends nonempty (unmatched_exact.mpr silent)
  have whole := Stops.stray .nil stops
  rw [List.nil_append, ← parts, List.append_nil] at whole
  exact whole

-- The scan splits its text behind the first character, which every piece takes.
theorem matched_piece {c : Char} {n : Nat}
    (found : lexemeLength? before.getLast? (c :: rest) = some n) :
    Matched before (c :: rest.take (n - 1)) (rest.drop (n - 1)) ∧
      (isSkipped (c :: rest.take (n - 1)) = true ↔
        Skipped (c :: rest.take (n - 1)) (rest.drop (n - 1))) := by
  have first := matched_take found
  have kind := isSkipped_exact found
  obtain ⟨m, rfl⟩ := Nat.exists_eq_add_one.mpr (lexemeLength?_pos found).1
  exact ⟨first, kind⟩

theorem scan_exact {p : Position} {previous : Option Char} (here : p = .behind before)
    (last : previous = before.getLast?) :
    match scan p previous text with
    | .ok tokens => Cuts before text tokens
    | .error e => Stops before text e := by
  -- The position and the last character are those behind what has been read.
  fun_induction scan p previous text generalizing before with
  | case1 p previous =>
    subst here
    simpa using (Cuts.last .nil : Cuts before [] _)
  | case2 p previous c rest silent =>
    subst here last
    exact .here (List.cons_ne_nil _ _) silent
  | case3 p previous c rest n found piece e failed =>
    rename_i ih
    subst here last
    obtain ⟨first, _⟩ := matched_piece found
    have whole : c :: rest = piece ++ rest.drop (n - 1) := by simp [piece]
    have more := @ih (before ++ piece) Position.behind_after first.last.symm
    rw [failed] at more
    rw [whole]
    exact more.further first
  | case4 p previous c rest n found piece tokens read =>
    rename_i ih
    subst here last
    obtain ⟨first, kind⟩ := matched_piece found
    have whole : c :: rest = piece ++ rest.drop (n - 1) := by simp [piece]
    have more := @ih (before ++ piece) Position.behind_after first.last.symm
    rw [read] at more
    rw [whole]
    by_cases skipped : isSkipped piece = true
    · rw [if_pos skipped]
      exact more.skip first (kind.mp skipped)
    · rw [if_neg skipped]
      exact more.keep first (mt kind.mpr skipped)

end

-- Every text is either cut into its tokens, the empty one at its end, or reported where reading
-- stops.
theorem tokenize_exact (text : String) :
    match tokenize text with
    | .ok tokens =>
      Cuts [] text.toList tokens ∧ tokens.getLast? = some ⟨"", .behind text.toList⟩
    | .error e => Stops [] text.toList e := by
  have scanned : match tokenize text with
      | .ok tokens => Cuts [] text.toList tokens
      | .error e => Stops [] text.toList e :=
    scan_exact rfl rfl
  cases read : tokenize text with
  | ok tokens =>
    rw [read] at scanned
    exact ⟨scanned, scanned.closes⟩
  | error e =>
    rw [read] at scanned
    exact scanned

end WireSchema.Source
