import WireSchema.Proofs.Source.Scanning

namespace WireSchema.Source

inductive Inside : List Char → Prop where
  | nil : Inside []
  | plain {c : Char} {rest : List Char} (quote : c ≠ '"') (line : c ≠ '\n') (escape : c ≠ '\\')
      (more : Inside rest) : Inside (c :: rest)
  | escaped {c : Char} {rest : List Char} (line : c ≠ '\n') (more : Inside rest) :
      Inside ('\\' :: c :: rest)

inductive Lexeme : List Char → Prop where
  | quoted {inner : List Char} (inside : Inside inner) : Lexeme ('"' :: (inner ++ ['"']))
  | number {text : List Char} (number : Number text) : Lexeme text
  | array {text element : List Char} (array : ArrayType text element) : Lexeme text
  | mark {c : Char} (mark : isPunctuation c = true) : Lexeme [c]
  | path {text : List Char} (path : Path text) : Lexeme text

inductive Piece (previous : Option Char) (rest : List Char) : List Char → Prop where
  | quoted {inner : List Char} (inside : Inside inner) :
      Piece previous rest ('"' :: (inner ++ ['"']))
  | number {text : List Char} (number : Number text)
      (ends : ∀ c ∈ rest.head?, Text.isWordChar c = false) : Piece previous rest text
  | array {text element : List Char} (array : ArrayType text element) : Piece previous rest text
  | mark {c : Char} (mark : isPunctuation c = true) : Piece previous rest [c]
  | path {text : List Char} (path : Path text) (starts : ∀ c ∈ previous, Text.isWordChar c = false)
      (ends : ∀ c ∈ rest.head?, isNameRest c = false) : Piece previous rest text
  | comment {mark line : List Char} (marks : mark = ['/', '/'] ∨ mark = ['#'])
      (single : '\n' ∉ line) (ends : ∀ c ∈ rest.head?, c = '\n') :
      Piece previous rest (mark ++ line)
  | blanks {run : List Char} (some : run ≠ []) (all : ∀ c ∈ run, Text.isBlank c = true)
      (ends : ∀ c ∈ rest.head?, Text.isBlank c = false) : Piece previous rest run

-- The characters that only stand inside pieces, where more than one character decides whether the
-- piece goes on.
structure Apart (c : Char) : Prop where
  point : c ≠ '.'
  colon : c ≠ ':'
  angle : c ≠ '<'

structure Closing (c : Char) : Prop extends Apart c where
  word : Text.isWordChar c = false

section

variable {text piece rest inner : List Char} {previous : Option Char} {n : Nat}

theorem closingLength?_inside (inside : Inside inner) :
    closingLength? (inner ++ '"' :: rest) = some (inner.length + 1) := by
  induction inside with
  | nil => rfl
  | @plain c more quote line escape _ ih =>
    rw [List.cons_append, closingLength?]
    · rw [ih]
      rfl
    · exact quote
    · exact line
    · intro same _
      exact escape same
    · intro _ _ same
      exact absurd same escape
  | escaped line _ ih =>
    rw [List.cons_append, List.cons_append, closingLength?, if_neg line, ih]
    rfl

theorem inside_of_closingLength (found : closingLength? text = some n) :
    ∃ inner rest, text = inner ++ '"' :: rest ∧ Inside inner ∧ n = inner.length + 1 := by
  fun_induction closingLength? text generalizing n with
  | case1 => cases found
  | case2 rest =>
    cases found
    exact ⟨[], rest, rfl, .nil, rfl⟩
  | case3 => cases found
  | case4 => cases found
  | case5 => cases found
  | case6 c rest line ih =>
    obtain ⟨m, further, rfl⟩ := Option.map_eq_some_iff.mp found
    obtain ⟨inner, behind, rfl, inside, rfl⟩ := ih further
    exact ⟨'\\' :: c :: inner, behind, rfl, .escaped line inside, rfl⟩
  | case7 c rest quote line lone escape ih =>
    have plain : c ≠ '\\' := by
      rintro rfl
      cases rest with
      | nil => exact lone rfl rfl
      | cons d rest => exact escape d rest rfl rfl
    obtain ⟨m, further, rfl⟩ := Option.map_eq_some_iff.mp found
    obtain ⟨inner, behind, rfl, inside, rfl⟩ := ih further
    exact ⟨c :: inner, behind, rfl, .plain quote line plain inside, rfl⟩

theorem lexemeLength?_quoted (inside : Inside inner) :
    lexemeLength? previous ('"' :: (inner ++ ['"']) ++ rest) =
      some ('"' :: (inner ++ ['"'])).length := by
  have closes : closingLength? (inner ++ (['"'] ++ rest)) = some (inner.length + 1) :=
    closingLength?_inside inside
  rw [lexemeLength?, List.cons_append, List.append_assoc, quotedLength?, closes]
  simp

theorem digitCount_digits {digits : List Char} (whole : Digits digits)
    (ends : ∀ c ∈ rest.head?, Text.isDecimalDigit c = false) :
    digitCount (digits ++ rest) = digits.length := by
  rw [digitCount, takeWhile_run whole.all ends]

theorem digits_of_count (found : digitCount text ≠ 0) :
    ∃ digits rest, text = digits ++ rest ∧ Digits digits ∧ digitCount text = digits.length := by
  refine ⟨text.takeWhile Text.isDecimalDigit, text.dropWhile Text.isDecimalDigit, ?_, ⟨?_, ?_⟩, rfl⟩
  · rw [List.takeWhile_append_dropWhile]
  · intro none
    exact found (by rw [digitCount, none]; rfl)
  · exact fun c member => List.mem_takeWhile_imp member

theorem not_digit_of_closing {c : Char} (closes : Text.isWordChar c = false) :
    Text.isDecimalDigit c = false := by
  rw [Bool.eq_false_iff]
  intro digit
  cases closes.symm.trans (Text.isWordChar_of_digit digit)

theorem atWordEnd_exact :
    atWordEnd rest = true ↔ ∀ c ∈ rest.head?, Text.isWordChar c = false := by
  cases rest with
  | nil => simp [atWordEnd]
  | cons c _ => simp [atWordEnd]

theorem unsignedLength?_number (unsigned : Unsigned text)
    (ends : ∀ c ∈ rest.head?, Text.isWordChar c = false ∧ c ≠ '.') :
    unsignedLength? (text ++ rest) = some text.length := by
  have word := atWordEnd_exact.mpr fun c first => (ends c first).1
  have none : ∀ c ∈ rest.head?, Text.isDecimalDigit c = false :=
    fun c first => not_digit_of_closing (ends c first).1
  cases unsigned with
  | whole whole =>
    have some := List.length_pos_iff.mpr whole.some
    have nothing : fractionDigits rest = 0 := by
      unfold fractionDigits
      split
      · exact absurd rfl (ends '.' rfl).2
      · rfl
    rw [unsignedLength?_eq, digitCount_digits whole none, List.drop_left, nothing, word]
    simp [Nat.ne_of_gt some]
  | @fraction digits behind whole fraction =>
    have some := List.length_pos_iff.mpr whole.some
    have more := List.length_pos_iff.mpr fraction.some
    have point : ∀ c ∈ ('.' :: (behind ++ rest)).head?, Text.isDecimalDigit c = false := by
      intro c first
      cases first
      decide
    have inner : fractionDigits ('.' :: (behind ++ rest)) = behind.length :=
      digitCount_digits fraction none
    rw [List.append_assoc, List.cons_append, unsignedLength?_eq, digitCount_digits whole point,
      List.drop_left, inner, List.drop_succ_cons, List.drop_left, word]
    simp [Nat.ne_of_gt some, more]
    omega

theorem number_of_unsignedLength (found : unsignedLength? text = some n) :
    ∃ number rest, text = number ++ rest ∧ Unsigned number ∧
      (∀ c ∈ rest.head?, Text.isWordChar c = false) ∧ n = number.length := by
  rw [unsignedLength?_eq] at found
  split at found
  · cases found
  · rename_i some
    obtain ⟨digits, behind, rfl, whole, length⟩ := digits_of_count some
    rw [length, List.drop_left] at found
    split at found
    · rename_i fraction
      simp only [Bool.and_eq_true, decide_eq_true_eq] at fraction
      cases found
      unfold fractionDigits at fraction ⊢
      split at fraction
      · rename_i more
        obtain ⟨inner, last, rfl, further, counted⟩ := digits_of_count (Nat.ne_of_gt fraction.1)
        rw [counted, List.drop_succ_cons, List.drop_left] at fraction
        refine ⟨digits ++ '.' :: inner, last, by simp, .fraction whole further,
          atWordEnd_exact.mp fraction.2, ?_⟩
        simp only [counted, List.length_append, List.length_cons]
        omega
      · exact absurd fraction.1 (Nat.lt_irrefl 0)
    · split at found
      · rename_i stops
        cases found
        exact ⟨digits, behind, rfl, .whole whole, atWordEnd_exact.mp stops, rfl⟩
      · cases found

theorem numberLength?_number (number : Number text)
    (ends : ∀ c ∈ rest.head?, Text.isWordChar c = false ∧ c ≠ '.') :
    numberLength? (text ++ rest) = some text.length := by
  cases number with
  | negative unsigned =>
    rw [List.cons_append, numberLength?, unsignedLength?_number unsigned ends]
    rfl
  | positive unsigned =>
    have length := unsignedLength?_number unsigned ends
    obtain ⟨c, tail, rfl, digit⟩ := unsigned.start
    rw [← length, List.cons_append, numberLength?]
    intro _ same
    cases same
    exact absurd digit (by decide)

theorem number_of_numberLength (found : numberLength? text = some n) :
    ∃ number rest, text = number ++ rest ∧ Number number ∧
      (∀ c ∈ rest.head?, Text.isWordChar c = false) ∧ n = number.length := by
  unfold numberLength? at found
  split at found
  · obtain ⟨m, digits, rfl⟩ := Option.map_eq_some_iff.mp found
    obtain ⟨number, rest, rfl, unsigned, ends, rfl⟩ := number_of_unsignedLength digits
    exact ⟨'-' :: number, rest, rfl, .negative unsigned, ends, rfl⟩
  · obtain ⟨number, rest, rfl, unsigned, ends, rfl⟩ := number_of_unsignedLength found
    exact ⟨number, rest, rfl, .positive unsigned, ends, rfl⟩

theorem piece_of_comment (found : commentLength? text = some n) :
    ∃ piece rest, text = piece ++ rest ∧ Piece previous rest piece ∧ n = piece.length := by
  unfold commentLength? at found
  have line (rest : List Char) : '\n' ∉ rest.takeWhile (· != '\n') := by
    intro member
    exact absurd (List.mem_takeWhile_imp member) (by decide)
  have ends (rest : List Char) : ∀ c ∈ (rest.dropWhile (· != '\n')).head?, c = '\n' := by
    intro c first
    simpa using dropWhile_ends c first
  split at found
  · rename_i rest
    cases found
    refine ⟨['/', '/'] ++ _, _, ?_, .comment (.inl rfl) (line rest) (ends rest), ?_⟩
    · simp [List.takeWhile_append_dropWhile]
    · simp
  · rename_i rest
    cases found
    refine ⟨['#'] ++ _, _, ?_, .comment (.inr rfl) (line rest) (ends rest), ?_⟩
    · simp [List.takeWhile_append_dropWhile]
    · simp
  · cases found

theorem piece_of_blank (found : blankLength? text = some n) :
    ∃ piece rest, text = piece ++ rest ∧ Piece previous rest piece ∧ n = piece.length := by
  simp only [blankLength?] at found
  split at found
  · cases found
  · rename_i some
    cases found
    refine ⟨text.takeWhile Text.isBlank, text.dropWhile Text.isBlank, ?_, ?_, rfl⟩
    · rw [List.takeWhile_append_dropWhile]
    · refine .blanks ?_ (fun c member => List.mem_takeWhile_imp member) dropWhile_ends
      exact fun none => some (List.length_eq_zero_iff.mpr none)

theorem piece_of_length (found : lexemeLength? previous text = some n) :
    ∃ piece rest, text = piece ++ rest ∧ Piece previous rest piece ∧ n = piece.length := by
  simp only [lexemeLength?, Option.or_eq_some_iff] at found
  rcases found with quoted | ⟨_, number | ⟨_, array | ⟨_, mark | ⟨_, path | ⟨_, skipped⟩⟩⟩⟩⟩
  · unfold quotedLength? at quoted
    split at quoted
    · obtain ⟨m, closes, rfl⟩ := Option.map_eq_some_iff.mp quoted
      obtain ⟨inner, rest, rfl, inside, rfl⟩ := inside_of_closingLength closes
      exact ⟨_, rest, by simp, .quoted inside, by simp⟩
    · cases quoted
  · obtain ⟨piece, rest, rfl, counted, ends, rfl⟩ := number_of_numberLength number
    exact ⟨piece, rest, rfl, .number counted ends, rfl⟩
  · obtain ⟨piece, rest, element, rfl, typed, rfl⟩ := array_of_arrayLength array
    exact ⟨piece, rest, rfl, .array typed, rfl⟩
  · cases text with
    | nil => cases mark
    | cons c rest =>
      rw [punctuationLength?] at mark
      split at mark
      · rename_i marks
        cases mark
        exact ⟨[c], rest, rfl, .mark marks, rfl⟩
      · cases mark
  · unfold pathLength? at path
    split at path
    · cases path
    · rename_i starts
      split at path
      · cases path
      · rename_i some
        cases path
        obtain ⟨piece, rest, rfl, path, ends, length⟩ := path_of_pathLength some
        refine ⟨piece, rest, rfl, .path path ?_ ends, length⟩
        intro c behind
        cases behind
        simpa using starts
  · rcases skipped with comment | ⟨_, blank⟩
    · exact piece_of_comment comment
    · exact piece_of_blank blank

theorem Piece.ne_nil (read : Piece previous rest piece) : piece ≠ [] := by
  cases read with
  | quoted _ => simp
  | number number _ =>
    obtain ⟨_, first, _⟩ := number.head
    exact List.ne_nil_of_mem (List.mem_of_mem_head? first)
  | array array => exact List.ne_nil_of_mem (List.mem_of_mem_head? array.head)
  | mark _ => simp
  | path path _ _ =>
    obtain ⟨_, first, _⟩ := path.head
    exact List.ne_nil_of_mem (List.mem_of_mem_head? first)
  | comment marks _ _ => rcases marks with rfl | rfl <;> simp
  | blanks some _ _ => exact some

theorem Piece.lexeme (read : Piece previous rest piece) (solid : isSkipped piece = false) :
    Lexeme piece := by
  cases read with
  | quoted inside => exact .quoted inside
  | number number _ => exact .number number
  | array array => exact .array array
  | mark mark => exact .mark mark
  | path path _ _ => exact .path path
  | comment marks _ _ => rcases marks with rfl | rfl <;> cases solid
  | blanks some all _ =>
    obtain ⟨c, tail, rfl⟩ := List.exists_cons_of_ne_nil some
    cases solid.symm.trans (isSkipped_of_blank (all c (List.mem_cons_self ..)))

theorem Lexeme.stands (lexeme : Lexeme piece) (ends : ∀ c ∈ rest.head?, Closing c)
    (starts : ∀ c ∈ previous, Text.isWordChar c = false) : Piece previous rest piece := by
  have stops : ∀ c ∈ rest.head?, Text.isWordChar c = false := fun c first => (ends c first).word
  cases lexeme with
  | quoted inside => exact .quoted inside
  | number number => exact .number number stops
  | array array => exact .array array
  | mark mark => exact .mark mark
  | path path =>
    refine .path path starts fun c first => ?_
    rw [Bool.eq_false_iff]
    intro inside
    cases (stops c first).symm.trans (isWordChar_of_rest inside)

theorem Lexeme.ne_nil (lexeme : Lexeme piece) : piece ≠ [] := by
  have alone : Piece none [] piece := lexeme.stands (by simp) (by simp)
  exact alone.ne_nil

theorem arrayLength?_path (path : Path text)
    (ends : ∀ c ∈ rest.head?, isNameRest c = false ∧ c ≠ '<') :
    arrayLength? (text ++ rest) = none := by
  rw [Option.eq_none_iff_forall_not_mem]
  intro n found
  obtain ⟨_, more, element, parts, ⟨named⟩, _⟩ := array_of_arrayLength found
  have mark : text ++ rest = "array".toList ++ '<' :: (element ++ '>' :: more) := by
    simpa using parts
  rcases List.append_eq_append_iff.mp mark with ⟨gap, front, behind⟩ | ⟨gap, front, behind⟩
  · cases gap with
    | nil => exact (ends '<' (by rw [behind]; rfl)).2 rfl
    | cons c tail =>
      have letter : c ∈ "array".toList := front ▸ List.mem_append_right _ (List.mem_cons_self ..)
      have stops := (ends c (by rw [behind]; rfl)).1
      have letters : "array".toList.all isNameRest = true := by decide
      cases stops.symm.trans (List.all_eq_true.mp letters c letter)
  · cases gap with
    | nil => exact (ends '<' (by rw [List.nil_append] at behind; rw [← behind]; rfl)).2 rfl
    | cons c tail =>
      obtain ⟨rfl, _⟩ := List.cons.inj behind
      exact absurd (path.chars '<' (by rw [front]; simp)) (by decide)

theorem Number.apart (number : Number text) (rest : List Char) :
    quotedLength? (text ++ rest) = none := by
  obtain ⟨c, first, kind⟩ := number.head
  obtain ⟨tail, rfl⟩ := List.head?_eq_some_iff.mp first
  rw [List.cons_append, quotedLength?]
  intro _ same
  cases same
  exact absurd kind (by decide)

theorem lexemeLength?_mark {c : Char} (marks : isPunctuation c = true) :
    lexemeLength? previous (c :: rest) = some 1 := by
  have kinds := punctuation_test
    (fun c => c != '"' && (c != '-' && (c != 'a' && !Text.isDecimalDigit c))) marks (by decide)
  simp only [Bool.and_eq_true, bne_iff_ne, Bool.not_eq_true'] at kinds
  obtain ⟨quote, minus, letter, digit⟩ := kinds
  rw [lexemeLength?, quotedLength?_none quote, numberLength?_none minus digit,
    arrayLength?_none letter, punctuationLength?, if_pos marks]
  rfl

theorem lexemeLength?_path (path : Path text) (starts : ∀ c ∈ previous, Text.isWordChar c = false)
    (ends : ∀ c ∈ rest.head?, isNameRest c = false ∧ c ≠ ':' ∧ c ≠ '<') :
    lexemeLength? previous (text ++ rest) = some text.length := by
  have array : arrayLength? (text ++ rest) = none :=
    arrayLength?_path path fun c first => ⟨(ends c first).1, (ends c first).2.2⟩
  have length : pathLength (text ++ rest) = text.length :=
    pathLength_path path fun c first => ⟨(ends c first).1, (ends c first).2.1⟩
  obtain ⟨c, first, start⟩ := path.head
  obtain ⟨minus, digit⟩ := not_digit_of_start start
  obtain ⟨tail, rfl⟩ := List.head?_eq_some_iff.mp first
  have front : previous.any Text.isWordChar = false := by
    cases previous with
    | none => rfl
    | some d => exact starts d rfl
  have found : pathLength? previous (c :: tail ++ rest) = some (c :: tail).length := by
    rw [pathLength?, front, length]
    simp
  have quote : c ≠ '"' := by
    rintro rfl
    exact absurd start (by decide)
  have mark : punctuationLength? (c :: (tail ++ rest)) = none := by
    refine if_neg fun marks => ?_
    have other := punctuation_test (fun c => !isNameStart c) marks (by decide)
    rw [start] at other
    cases other
  rw [List.cons_append] at found array ⊢
  rw [lexemeLength?, quotedLength?_none quote, numberLength?_none minus digit, array, mark, found]
  rfl

theorem Piece.length (read : Piece previous rest piece) (ends : ∀ c ∈ rest.head?, Apart c) :
    lexemeLength? previous (piece ++ rest) = some piece.length := by
  cases read with
  | quoted inside => exact lexemeLength?_quoted inside
  | number number stops =>
    have found : numberLength? (piece ++ rest) = some piece.length :=
      numberLength?_number number fun c first => ⟨stops c first, (ends c first).point⟩
    rw [lexemeLength?, number.apart, found]
    rfl
  | array array =>
    have found : arrayLength? (piece ++ rest) = some piece.length := arrayLength?_array array
    obtain ⟨tail, rfl⟩ := List.head?_eq_some_iff.mp array.head
    rw [lexemeLength?, found, List.cons_append, quotedLength?_none (by decide),
      numberLength?_none (by decide) (by decide)]
    rfl
  | mark marks => exact lexemeLength?_mark marks
  | path path starts stops =>
    exact lexemeLength?_path path starts fun c first =>
      ⟨stops c first, (ends c first).colon, (ends c first).angle⟩
  | @comment mark line marks single stops =>
    have run : (line ++ rest).takeWhile (· != '\n') = line := by
      refine takeWhile_run ?_ fun c first => by simp [stops c first]
      intro c member
      have inside : c ≠ '\n' := by
        rintro rfl
        exact single member
      simpa using inside
    rcases marks with rfl | rfl
    · have found := @lexemeLength?_slashes (line ++ rest) previous
      rw [run] at found
      simpa using found
    · have found := @lexemeLength?_hash (line ++ rest) previous
      rw [run] at found
      simpa using found
  | blanks some all stops =>
    obtain ⟨c, tail, rfl⟩ := List.exists_cons_of_ne_nil some
    have found := @lexemeLength?_blank (tail ++ rest) previous c (all c (List.mem_cons_self ..))
    rwa [← List.cons_append, takeWhile_run all stops] at found

theorem apart_of_length {c : Char} (found : lexemeLength? previous (c :: rest) = some n) :
    Apart c := by
  have silent (d : Char) (inner : d = '.' ∨ d = ':' ∨ d = '<') : c ≠ d := by
    rintro rfl
    rcases inner with rfl | rfl | rfl
    all_goals
      rw [lexemeLength?_other (by decide) (by decide) (by decide) (by decide) (by decide)] at found
      cases found
  exact ⟨silent '.' (.inl rfl), silent ':' (.inr (.inl rfl)), silent '<' (.inr (.inr rfl))⟩

end

end WireSchema.Source
