import WireSchema.Proofs.Source.Lexeme
import WireSchema.Proofs.Source.Pattern

namespace WireSchema.Text

theorem isAlpha_exact {c : Char} :
    c.isAlpha = true ↔ 65 ≤ c.toNat ∧ c.toNat ≤ 90 ∨ 97 ≤ c.toNat ∧ c.toNat ≤ 122 := by
  have cases : c.isAlpha = (decide (c.val ≥ 65 ∧ c.val ≤ 90) ||
      (decide (c.val ≥ 97) && decide (c.val ≤ 122))) := rfl
  simp only [cases, Bool.or_eq_true, Bool.and_eq_true, decide_eq_true_eq, ge_iff_le,
    UInt32.le_iff_toNat_le, UInt32.reduceToNat, Char.toNat]

theorem isDigit_exact {c : Char} : c.isDigit = true ↔ 48 ≤ c.toNat ∧ c.toNat ≤ 57 := by
  have bounds : c.isDigit = (decide (c.val ≥ 48) && decide (c.val ≤ 57)) := rfl
  simp only [bounds, Bool.and_eq_true, decide_eq_true_eq, ge_iff_le, UInt32.le_iff_toNat_le,
    UInt32.reduceToNat, Char.toNat]

theorem inRanges_mono {inner outer : List (Nat × Nat)} {c : Char}
    (within : (inner.all fun r => outer.any fun s => Nat.ble s.1 r.1 && Nat.ble r.2 s.2) = true)
    (member : inRanges inner c = true) : inRanges outer c = true := by
  simp only [inRanges, List.any_eq_true, Bool.and_eq_true, decide_eq_true_eq] at member ⊢
  obtain ⟨r, there, low, high⟩ := member
  obtain ⟨s, found, wider⟩ := List.any_eq_true.mp (List.all_eq_true.mp within r there)
  simp only [Bool.and_eq_true, Nat.ble_eq] at wider
  exact ⟨s, found, by omega, by omega⟩

theorem isWordChar_of_digit {c : Char} (digit : isDecimalDigit c = true) :
    isWordChar c = true := by
  have parts : inRanges decimalDigitRanges c =
      ((decide (0x30 ≤ c.toNat) && decide (c.toNat ≤ 0x39)) ||
        inRanges decimalDigitRanges.tail c) := rfl
  unfold isDecimalDigit at digit
  unfold isWordChar
  by_cases ascii : c.toNat < 128
  · rw [if_pos ascii] at digit ⊢
    simp [Char.isAlphanum, digit]
  · rw [if_neg ascii, parts, Bool.or_eq_true, Bool.and_eq_true, decide_eq_true_eq,
      decide_eq_true_eq] at digit
    rw [if_neg ascii]
    have within : (decimalDigitRanges.tail.all fun r =>
        wordRanges.any fun s => Nat.ble s.1 r.1 && Nat.ble r.2 s.2) = true := by
      decide +kernel
    rcases digit with ⟨_, high⟩ | other
    · omega
    · exact inRanges_mono within other

theorem inRanges_apart {one other : List (Nat × Nat)} {c : Char}
    (apart : (one.all fun r => other.all fun s => Nat.blt r.2 s.1 || Nat.blt s.2 r.1) = true)
    (member : inRanges one c = true) : inRanges other c = false := by
  rw [Bool.eq_false_iff]
  intro both
  simp only [inRanges, List.any_eq_true, Bool.and_eq_true, decide_eq_true_eq] at member both
  obtain ⟨r, there, low, high⟩ := member
  obtain ⟨s, found, below, above⟩ := both
  have distinct := List.all_eq_true.mp (List.all_eq_true.mp apart r there) s found
  simp only [Bool.or_eq_true, Nat.blt_eq] at distinct
  omega

theorem not_isWordChar_of_blank {c : Char} (blank : isBlank c = true) : isWordChar c = false := by
  have apart : (blankRanges.all fun r =>
      wordRanges.all fun s => Nat.blt r.2 s.1 || Nat.blt s.2 r.1) = true := by
    decide +kernel
  unfold isWordChar
  split
  · rename_i ascii
    have control : c.toNat ≤ 32 := by
      simp only [isBlank, blankRanges, inRanges, List.any_cons, List.any_nil, Bool.or_eq_true,
        Bool.and_eq_true, decide_eq_true_eq, Bool.false_eq_true, or_false] at blank
      omega
    have line : c ≠ '_' := by
      rintro rfl
      exact absurd control (by decide)
    have letter : c.isAlpha = false := by
      rw [Bool.eq_false_iff, ne_eq, isAlpha_exact]
      omega
    have digit : c.isDigit = false := by
      rw [Bool.eq_false_iff, ne_eq, isDigit_exact]
      omega
    simp [Char.isAlphanum, letter, digit, line]
  · exact inRanges_apart apart blank

end WireSchema.Text

namespace WireSchema.Source

-- The lengths that the functions for the classes tell are the first ends of the pattern's matches,
-- whatever stands around.

theorem isWordChar_of_rest {c : Char} (rest : isNameRest c = true) : Text.isWordChar c = true := by
  have ascii : c.toNat < 128 := by
    rw [isNameRest, Char.isAlphanum, Bool.or_eq_true, Bool.or_eq_true, beq_iff_eq,
      Text.isAlpha_exact, Text.isDigit_exact] at rest
    rcases rest with (letter | digit) | rfl
    · omega
    · omega
    · decide
  rw [Text.isWordChar, if_pos ascii]
  exact rest

theorem isWordChar_of_start {c : Char} (start : isNameStart c = true) :
    Text.isWordChar c = true :=
  isWordChar_of_rest (isNameRest_of_start start)

namespace Pattern

def name : Pattern :=
  both (one isNameStart) (many (one isNameRest))

def digits : Pattern :=
  atLeastOne (one Text.isDecimalDigit)

def inQuotes : Pattern :=
  either (one fun c => c != '"' && c != '\\' && c != '\n')
    (both (one (· == '\\')) (one (· != '\n')))

def quoted : Pattern :=
  both (one (· == '"')) (both (many inQuotes) (one (· == '"')))

def fraction : Pattern :=
  both (one (· == '.')) digits

def number : Pattern :=
  both (optional (one (· == '-'))) (both digits (both (optional fraction) boundary))

def arrayType : Pattern :=
  both (chars ['a', 'r', 'r', 'a', 'y', '<']) (both name (one (· == '>')))

def punctuation : Pattern :=
  one isPunctuation

def scope : Pattern :=
  both (chars [':', ':']) name

def path : Pattern :=
  both boundary (both name (many scope))

def line : Pattern :=
  many (one (· != '\n'))

def comment : Pattern :=
  either (both (chars ['/', '/']) line) (both (chars ['#']) line)

def blanks : Pattern :=
  atLeastOne (one Text.isBlank)

def piece : Pattern :=
  either quoted <| either number <| either arrayType <| either punctuation <|
    either path <| either comment blanks

end Pattern

section

variable {α : Type} {next : Place → Option α} {p : Place} {previous : Option Char}
  {text rest : List Char}

def fractionDigits : List Char → Nat
  | '.' :: rest => digitCount rest
  | _ => 0

theorem unsignedLength?_eq :
    unsignedLength? text =
      if digitCount text = 0 then none
      else if 0 < fractionDigits (text.drop (digitCount text)) &&
          atWordEnd ((text.drop (digitCount text)).drop
            (fractionDigits (text.drop (digitCount text)) + 1)) then
        some (digitCount text + fractionDigits (text.drop (digitCount text)) + 1)
      else if atWordEnd (text.drop (digitCount text)) then some (digitCount text)
      else none :=
  rfl

namespace Pattern

theorem attempt_name (later : PrefersLater isNameRest next) :
    name.attempt next p =
      if nameLength p.ahead = 0 then none else next (p.skip (nameLength p.ahead)) := by
  obtain ⟨previous, ahead⟩ := p
  unfold name
  rw [attempt_both]
  cases ahead with
  | nil => rfl
  | cons c rest =>
    rw [attempt_one]
    by_cases start : isNameStart c = true
    · simp only [nameLength, if_pos start, attempt_run later (isNameRest_of_start start),
        Nat.add_comm 1, Place.skip_cons, Nat.add_eq_zero_iff, Nat.one_ne_zero, and_false, if_false]
    · simp [nameLength, start]

theorem takes_inQuotes : inQuotes.Takes :=
  Takes.either Takes.one (Takes.both Takes.one)

theorem attempt_inQuotes {c : Char} :
    inQuotes.attempt next ⟨previous, c :: rest⟩ =
      if c = '"' ∨ c = '\n' then none
      else if c = '\\' then (one (· != '\n')).attempt next ⟨some c, rest⟩
      else next ⟨some c, rest⟩ := by
  unfold inQuotes
  rw [attempt_either, attempt_one, attempt_both, attempt_one]
  by_cases quote : c = '"'
  · simp [quote]
  · by_cases line : c = '\n'
    · simp [line]
    · by_cases escape : c = '\\' <;> simp [quote, line, escape]

theorem attempt_closing :
    (many inQuotes).attempt ((one (· == '"')).attempt some) ⟨previous, text⟩ =
      (closingLength? text).map (Place.mk previous text).skip := by
  fun_induction closingLength? text generalizing previous <;> rw [attempt_many takes_inQuotes]
  case case1 => rfl
  case case2 rest =>
    rw [attempt_inQuotes, if_pos (.inl rfl), attempt_one]
    simp [Place.skip_cons, Place.skip_zero]
  case case3 rest =>
    rw [attempt_inQuotes, if_pos (.inr rfl), attempt_one]
    rfl
  case case4 =>
    rw [attempt_inQuotes, attempt_one]
    simp [attempt_one_end]
  case case5 rest =>
    rw [attempt_inQuotes, attempt_one, attempt_one]
    rfl
  case case6 c rest other ih =>
    rw [attempt_inQuotes, attempt_one, attempt_one]
    simp [other, ih, Function.comp_def, Place.skip_cons]
  case case7 c rest quote line lone escape ih =>
    have plain : c ≠ '\\' := by
      rintro rfl
      cases rest with
      | nil => exact lone rfl rfl
      | cons d rest => exact escape d rest rfl rfl
    have other : ¬(c == '"') = true := fun same => quote (beq_iff_eq.mp same)
    rw [attempt_inQuotes, if_neg (not_or.mpr ⟨quote, line⟩), if_neg plain, ih, attempt_one,
      if_neg other, Option.or_none]
    simp [Function.comp_def, Place.skip_cons]

theorem first_quoted :
    quoted.attempt some ⟨previous, text⟩ =
      (quotedLength? text).map (Place.mk previous text).skip := by
  unfold quoted
  rw [attempt_both]
  cases text with
  | nil => rfl
  | cons c rest =>
    rw [attempt_one, attempt_both, attempt_closing]
    by_cases quote : c = '"'
    · simp [quote, quotedLength?, Function.comp_def, Place.skip_cons]
    · simp [quote, quotedLength?]

-- Digits do not end before another digit, since no word ends there.
theorem boundary_refused {d c : Char} (before : Text.isDecimalDigit d = true)
    (ahead : Text.isDecimalDigit c = true) :
    boundary.attempt next ⟨some d, c :: rest⟩ = none := by
  rw [attempt_boundary]
  simp [Place.isBoundary, Text.isWordChar_of_digit before, Text.isWordChar_of_digit ahead]

theorem later_boundary : PrefersLater Text.isDecimalDigit (boundary.attempt next) :=
  .of_refusal fun _ _ _ => boundary_refused

theorem later_fraction :
    PrefersLater Text.isDecimalDigit ((optional fraction).attempt (boundary.attempt next)) := by
  refine .of_refusal fun d c rest before ahead => ?_
  have point : ¬(c == '.') = true := by
    intro same
    cases beq_iff_eq.mp same
    exact absurd ahead (by decide)
  unfold optional fraction
  rw [attempt_either, attempt_both, attempt_one, if_neg point, attempt_nothing,
    boundary_refused before ahead]
  rfl

theorem attempt_digits (later : PrefersLater Text.isDecimalDigit next) :
    digits.attempt next p =
      if digitCount p.ahead = 0 then none else next (p.skip (digitCount p.ahead)) :=
  attempt_atLeastOne later

theorem boundary_digits (found : digitCount text ≠ 0) :
    boundary.attempt some ((Place.mk previous text).skip (digitCount text)) =
      if atWordEnd (text.drop (digitCount text)) then
        some ((Place.mk previous text).skip (digitCount text))
      else none := by
  have taken : text.take (digitCount text) = text.takeWhile Text.isDecimalDigit :=
    (List.prefix_iff_eq_take.mp (List.takeWhile_prefix _)).symm
  have nonempty : text.takeWhile Text.isDecimalDigit ≠ [] := by
    intro none
    exact found (by rw [digitCount, none, List.length_nil])
  have last : Text.isWordChar ((text.takeWhile Text.isDecimalDigit).getLast nonempty) = true :=
    Text.isWordChar_of_digit (List.mem_takeWhile_imp (List.getLast_mem nonempty))
  rw [attempt_boundary]
  congr 1
  simp only [Place.isBoundary, Place.skip, taken, List.getLast?_eq_some_getLast nonempty]
  cases text.drop (digitCount text) <;> simp [atWordEnd, last]

theorem first_fraction :
    fraction.attempt (boundary.attempt some) p =
      if 0 < fractionDigits p.ahead && atWordEnd (p.ahead.drop (fractionDigits p.ahead + 1)) then
        some (p.skip (fractionDigits p.ahead + 1))
      else none := by
  obtain ⟨previous, ahead⟩ := p
  unfold fraction
  rw [attempt_both]
  cases ahead with
  | nil => rfl
  | cons c rest =>
    rw [attempt_one, attempt_digits later_boundary]
    by_cases point : c = '.'
    · subst point
      by_cases found : digitCount rest = 0
      · simp [fractionDigits, found]
      · simp only [fractionDigits, boundary_digits found, beq_self_eq_true, if_true, if_neg found,
          Nat.pos_of_ne_zero found, decide_true, Bool.true_and, List.drop_succ_cons,
          Place.skip_cons]
    · simp [fractionDigits, point]

theorem first_unsigned :
    digits.attempt ((optional fraction).attempt (boundary.attempt some)) ⟨previous, text⟩ =
      (unsignedLength? text).map (Place.mk previous text).skip := by
  rw [attempt_digits later_fraction, unsignedLength?_eq]
  by_cases found : digitCount text = 0
  · simp [found]
  · have ahead : ((Place.mk previous text).skip (digitCount text)).ahead =
      text.drop (digitCount text) := rfl
    simp only [if_neg found, optional, attempt_either, attempt_nothing, boundary_digits found,
      first_fraction, ahead, Place.skip_skip, ← Nat.add_assoc]
    -- The fraction belongs to the number where a word ends behind it.
    split
    · rfl
    · rw [Option.none_or]
      split <;> rfl

theorem first_number :
    number.attempt some ⟨previous, text⟩ =
      (numberLength? text).map (Place.mk previous text).skip := by
  unfold number
  rw [attempt_both, optional, attempt_either, attempt_nothing]
  cases text with
  | nil => rfl
  | cons c rest =>
    rw [attempt_one, attempt_both, attempt_both, first_unsigned, first_unsigned]
    by_cases minus : c = '-'
    · subst minus
      have none : unsignedLength? ('-' :: rest) = none := rfl
      simp [numberLength?, none, Function.comp_def, Place.skip_cons]
    · simp [numberLength?, minus]

theorem first_array :
    arrayType.attempt some ⟨previous, text⟩ =
      (arrayLength? text).map (Place.mk previous text).skip := by
  have later : PrefersLater isNameRest
      ((one (· == '>')).attempt (some : Place → Option Place)) := by
    refine .of_refusal fun d c rest _ ahead => ?_
    have other : ¬(c == '>') = true := by
      intro same
      cases beq_iff_eq.mp same
      exact absurd ahead (by decide)
    rw [attempt_one, if_neg other]
  unfold arrayType
  rw [attempt_both, attempt_both]
  by_cases mark : ['a', 'r', 'r', 'a', 'y', '<'] <+: text
  · obtain ⟨rest, rfl⟩ := mark
    rw [attempt_mark _ '<' rfl, attempt_name later]
    simp only [List.cons_append, List.nil_append, arrayLength?]
    by_cases none : nameLength rest = 0
    · rw [if_pos none]
      split <;> simp [none]
    · have last : ((Place.mk (some '<') rest).skip (nameLength rest)).ahead =
        rest.drop (nameLength rest) := rfl
      rw [if_neg none, attempt_one_skip, last]
      cases rest.drop (nameLength rest) with
      | nil => rfl
      | cons c more =>
        by_cases close : c = '>'
        · simp [close, none, Place.skip_skip, Place.skip_cons]
        · simp [close]
  · have none : arrayLength? text = none := by
      unfold arrayLength?
      split
      · exact absurd ⟨_, rfl⟩ mark
      · rfl
    rw [attempt_elsewhere mark, none]
    rfl

theorem first_punctuation :
    punctuation.attempt some ⟨previous, text⟩ =
      (punctuationLength? text).map (Place.mk previous text).skip := by
  cases text with
  | nil => rfl
  | cons c rest =>
    unfold punctuation
    rw [attempt_one]
    by_cases marks : isPunctuation c = true
    · simp [punctuationLength?, marks, Place.skip_cons, Place.skip_zero]
    · simp [punctuationLength?, marks]

theorem takes_scope : scope.Takes :=
  Takes.both (Takes.both Takes.one)

theorem total_scopes : ((many scope).attempt some p).isSome = true := by
  rw [attempt_many takes_scope]
  simp

theorem pathRestLength_zero {fuel : Nat} (other : ¬[':', ':'] <+: text) :
    pathRestLength fuel text = 0 := by
  unfold pathRestLength
  split
  · exact absurd ⟨_, rfl⟩ other
  · rfl

theorem attempt_scope (total : ∀ q, (next q).isSome = true) :
    scope.attempt next ⟨previous, ':' :: ':' :: rest⟩ =
      if nameLength rest = 0 then none
      else next ((Place.mk previous (':' :: ':' :: rest)).skip (nameLength rest + 2)) := by
  have mark : scope.attempt next ⟨previous, ':' :: ':' :: rest⟩ =
      name.attempt next ⟨some ':', rest⟩ := by
    rw [scope, attempt_both]
    exact attempt_mark [':', ':'] ':' rfl
  rw [mark, attempt_name (.of_total total), Place.skip_cons, Place.skip_cons]

theorem first_scopes {fuel : Nat} (enough : p.ahead.length ≤ fuel) :
    (many scope).attempt some p = some (p.skip (pathRestLength fuel p.ahead)) := by
  induction fuel generalizing p with
  | zero =>
    obtain ⟨previous, ahead⟩ := p
    cases List.length_eq_zero_iff.mp (Nat.le_zero.mp enough)
    rfl
  | succ fuel ih =>
    obtain ⟨previous, ahead⟩ := p
    rw [attempt_many takes_scope]
    by_cases mark : [':', ':'] <+: ahead
    · obtain ⟨rest, rfl⟩ := mark
      have shorter : (rest.drop (nameLength rest)).length ≤ fuel := by
        simp only [List.length_append, List.length_cons, List.length_nil] at enough
        rw [List.length_drop]
        omega
      simp only [List.cons_append, List.nil_append]
      rw [attempt_scope fun _ => total_scopes, pathRestLength]
      by_cases none : nameLength rest = 0
      · simp [none, Place.skip_zero]
      · have more := ih (p := (Place.mk previous (':' :: ':' :: rest)).skip (nameLength rest + 2))
          shorter
        rw [if_neg none, more, Place.skip_skip]
        simp only [if_neg none]
        rfl
    · rw [scope, attempt_both, attempt_elsewhere mark, pathRestLength_zero mark, Place.skip_zero,
        Option.none_or]

theorem first_path :
    path.attempt some ⟨previous, text⟩ =
      (pathLength? previous text).map (Place.mk previous text).skip := by
  unfold path
  rw [attempt_both, attempt_boundary, attempt_both, attempt_name (.of_total fun _ => total_scopes)]
  by_cases none : nameLength text = 0
  · simp [none, pathLength?, pathLength]
  · have word : text.head?.any Text.isWordChar = true := by
      obtain ⟨word, rest, rfl, ⟨⟨c, tail, rfl, start⟩, _⟩, _, _⟩ := word_of_nameLength none
      exact isWordChar_of_start start
    have shorter : (text.drop (nameLength text)).length ≤ text.length := by simp
    have scopes := first_scopes (p := (Place.mk previous text).skip (nameLength text)) shorter
    rw [if_neg none, scopes, Place.skip_skip]
    have whole : pathLength text =
        nameLength text + pathRestLength text.length (text.drop (nameLength text)) := if_neg none
    have found : pathLength text ≠ 0 := by omega
    rw [pathLength?, if_neg found, whole]
    simp only [Place.isBoundary, word]
    cases previous.any Text.isWordChar <;> rfl

theorem first_line (mark : List Char) (d : Char)
    (last : mark.getLast? = some d) (inside : (d != '\n') = true) :
    (both (chars mark) line).attempt some ⟨previous, mark ++ rest⟩ =
      some ((Place.mk previous (mark ++ rest)).skip
        ((rest.takeWhile (· != '\n')).length + mark.length)) := by
  have total : PrefersLater (· != '\n') (some : Place → Option Place) := .of_total fun _ => rfl
  rw [attempt_both, attempt_mark mark d last, line, attempt_run total inside, Nat.add_comm,
    ← Place.skip_skip, Place.skip_mark last]

theorem first_comment :
    comment.attempt some ⟨previous, text⟩ =
      (commentLength? text).map (Place.mk previous text).skip := by
  have other {mark : List Char} (elsewhere : ¬mark <+: text) :
      (both (chars mark) line).attempt some ⟨previous, text⟩ = none := by
    rw [attempt_both, attempt_elsewhere elsewhere]
  unfold comment
  rw [attempt_either]
  by_cases slashes : ['/', '/'] <+: text
  · obtain ⟨rest, rfl⟩ := slashes
    rw [first_line _ '/' rfl rfl]
    rfl
  · by_cases hash : ['#'] <+: text
    · obtain ⟨rest, rfl⟩ := hash
      rw [other slashes, first_line _ '#' rfl rfl]
      rfl
    · have none : commentLength? text = none := by
        unfold commentLength?
        split
        · exact absurd ⟨_, rfl⟩ slashes
        · exact absurd ⟨_, rfl⟩ hash
        · rfl
      rw [other slashes, other hash, none]
      rfl

theorem first_blanks :
    blanks.attempt some ⟨previous, text⟩ =
      (blankLength? text).map (Place.mk previous text).skip := by
  have runs := attempt_atLeastOne (p := ⟨previous, text⟩)
    (.of_total fun _ => rfl : PrefersLater Text.isBlank some)
  unfold blanks blankLength?
  rw [runs]
  simp only
  split <;> rfl

theorem first_piece :
    (piece.ends ⟨previous, text⟩).head? =
      (lexemeLength? previous text).map (Place.mk previous text).skip := by
  rw [head?_ends, piece, lexemeLength?]
  simp only [attempt_either, Option.map_or, first_quoted, first_number, first_array,
    first_punctuation, first_path, first_comment, first_blanks]

theorem takes_piece : piece.Takes :=
  have run {test : Char → Bool} : (atLeastOne (one test)).Takes := .both .one
  have named : name.Takes := .both .one
  have comments : comment.Takes := .either (.both (.both .one)) (.both (.both .one))
  .either (.both .one) <| .either (.behind (.both run)) <| .either (.both (.both .one)) <|
    .either .one <| .either (.behind (.both named)) <| .either comments run

end Pattern

end

end WireSchema.Source
