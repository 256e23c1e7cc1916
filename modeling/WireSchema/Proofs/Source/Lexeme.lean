import WireSchema.Source.Node
import Mathlib.Data.List.TakeWhile

namespace WireSchema.Source

structure Word (text : List Char) : Prop where
  start : ∃ c rest, text = c :: rest ∧ isNameStart c = true
  all : ∀ c ∈ text, isNameRest c = true

inductive Scopes : List Char → Prop where
  | nil : Scopes []
  | cons {word rest : List Char} (named : Word word) (more : Scopes rest) :
      Scopes (':' :: ':' :: (word ++ rest))

inductive Path : List Char → Prop where
  | mk {word rest : List Char} (named : Word word) (more : Scopes rest) : Path (word ++ rest)

structure Digits (text : List Char) : Prop where
  some : text ≠ []
  all : ∀ c ∈ text, Text.isDecimalDigit c = true

inductive Unsigned : List Char → Prop where
  | whole {digits : List Char} (whole : Digits digits) : Unsigned digits
  | fraction {digits behind : List Char} (whole : Digits digits) (fraction : Digits behind) :
      Unsigned (digits ++ '.' :: behind)

inductive Number : List Char → Prop where
  | positive {text : List Char} (unsigned : Unsigned text) : Number text
  | negative {text : List Char} (unsigned : Unsigned text) : Number ('-' :: text)

-- A single line in quotes; quotes inside need no backslash.
inductive Line : List Char → List Char → Prop where
  | mk {inner : List Char} (single : '\n' ∉ inner) : Line ('"' :: (inner ++ ['"'])) inner

inductive ArrayType : List Char → List Char → Prop where
  | mk {element : List Char} (named : Word element) :
      ArrayType ("array<".toList ++ element ++ ['>']) element

inductive Denotes (text : String) : Scalar → Prop where
  | quoted {inner : List Char} (line : Line text.toList inner) :
      Denotes text (.quoted (String.ofList (unescape inner)))
  | number (number : Number text.toList) : Denotes text (.number text)
  | name (path : Path text.toList) : Denotes text (.name text)
  | arrayOf {element : List Char} (array : ArrayType text.toList element) :
      Denotes text (.arrayOf (String.ofList element))

inductive Names (text : String) : String → Prop where
  | bare (path : Path text.toList) : Names text text
  | quoted {inner : List Char} (line : Line text.toList inner) :
      Names text (String.ofList (unescape inner))

section

variable {text word rest : List Char}

theorem isNameRest_of_start {c : Char} (start : isNameStart c = true) : isNameRest c = true := by
  simp only [isNameStart, isNameRest, Char.isAlphanum, Bool.or_eq_true] at start ⊢
  exact start.imp_left .inl

theorem Word.ne_nil (named : Word word) : word ≠ [] := by
  obtain ⟨⟨c, rest, rfl, _⟩, _⟩ := named
  simp

theorem takeWhile_run {test : Char → Bool} (all : ∀ c ∈ text, test c = true)
    (ends : ∀ c ∈ rest.head?, test c = false) : (text ++ rest).takeWhile test = text := by
  have stops : rest.takeWhile test = [] := by
    cases rest with
    | nil => rfl
    | cons c _ => simp [ends c rfl]
  rw [List.takeWhile_append_of_pos all, stops, List.append_nil]

theorem dropWhile_ends {test : Char → Bool} :
    ∀ c ∈ (text.dropWhile test).head?, test c = false := by
  intro c first
  have ends := List.head?_dropWhile_not test text
  rwa [Option.mem_def.mp first] at ends

theorem nameLength_word (named : Word word) (ends : ∀ c ∈ rest.head?, isNameRest c = false) :
    nameLength (word ++ rest) = word.length := by
  obtain ⟨⟨c, tail, rfl, start⟩, all⟩ := named
  have inside : ∀ x ∈ tail, isNameRest x = true :=
    fun x member => all x (List.mem_cons_of_mem _ member)
  simp only [List.cons_append, nameLength, start, if_true, takeWhile_run inside ends]
  simp [Nat.add_comm]

theorem word_of_nameLength (found : nameLength text ≠ 0) :
    ∃ word rest, text = word ++ rest ∧ Word word ∧ (∀ c ∈ rest.head?, isNameRest c = false) ∧
      nameLength text = word.length := by
  cases text with
  | nil => exact absurd rfl found
  | cons c tail =>
    by_cases start : isNameStart c = true
    · refine ⟨c :: tail.takeWhile isNameRest, tail.dropWhile isNameRest, ?_, ?_, dropWhile_ends, ?_⟩
      · simp [List.takeWhile_append_dropWhile]
      · refine ⟨⟨c, _, rfl, start⟩, ?_⟩
        intro x member
        rcases List.mem_cons.mp member with rfl | later
        · exact isNameRest_of_start start
        · exact List.mem_takeWhile_imp later
      · simp [nameLength, start, Nat.add_comm]
    · simp [nameLength, start] at found

theorem Scopes.ends (more : Scopes text) (ends : ∀ c ∈ rest.head?, isNameRest c = false) :
    ∀ c ∈ (text ++ rest).head?, isNameRest c = false := by
  cases more with
  | nil => exact ends
  | cons named more =>
    intro c same
    cases same
    decide

theorem pathRestLength_scopes {fuel : Nat} (more : Scopes text)
    (ends : ∀ c ∈ rest.head?, isNameRest c = false ∧ c ≠ ':') (enough : text.length ≤ fuel) :
    pathRestLength fuel (text ++ rest) = text.length := by
  induction more generalizing fuel with
  | nil =>
    rw [List.nil_append]
    unfold pathRestLength
    split
    · exact absurd rfl (ends ':' rfl).2
    · rfl
  | @cons word scopes named more ih =>
    cases fuel with
    | zero => simp at enough
    | succ fuel =>
      have short : scopes.length ≤ fuel := by
        simp only [List.length_cons, List.length_append] at enough
        omega
      have nonempty := List.length_pos_iff.mpr named.ne_nil
      have behind := nameLength_word named (more.ends fun c first => (ends c first).1)
      simp only [List.cons_append, List.append_assoc, pathRestLength, behind, List.drop_left,
        ih short]
      simp only [List.length_cons, List.length_append]
      split <;> omega

theorem scopes_of_pathRestLength {fuel : Nat} (ends : ∀ c ∈ text.head?, isNameRest c = false) :
    ∃ scopes rest, text = scopes ++ rest ∧ Scopes scopes ∧
      (∀ c ∈ rest.head?, isNameRest c = false) ∧ pathRestLength fuel text = scopes.length := by
  fun_induction pathRestLength fuel text with
  | case1 fuel rest n none => exact ⟨[], _, rfl, .nil, ends, rfl⟩
  | case2 fuel rest n found ih =>
    obtain ⟨word, more, rfl, named, ends, length⟩ := word_of_nameLength found
    have behind : (word ++ more).drop n = more := List.drop_left' length.symm
    rw [behind] at ih ⊢
    obtain ⟨scopes, last, rfl, further, stops, inner⟩ := ih ends
    refine ⟨':' :: ':' :: (word ++ scopes), last, by simp, .cons named further, stops, ?_⟩
    have counted : n = word.length := length
    simp only [List.length_cons, List.length_append]
    omega
  | case3 => exact ⟨[], _, rfl, .nil, ends, rfl⟩

theorem pathLength_path (path : Path text)
    (ends : ∀ c ∈ rest.head?, isNameRest c = false ∧ c ≠ ':') :
    pathLength (text ++ rest) = text.length := by
  obtain ⟨named, more⟩ := path
  have nonempty := List.length_pos_iff.mpr named.ne_nil
  have first := nameLength_word named (more.ends fun c first => (ends c first).1)
  rw [pathLength, List.append_assoc]
  simp only [first, List.drop_left, if_neg (Nat.ne_of_gt nonempty)]
  rw [pathRestLength_scopes more ends (by simp only [List.length_append]; omega),
    List.length_append]

theorem path_of_pathLength (found : pathLength text ≠ 0) :
    ∃ path rest, text = path ++ rest ∧ Path path ∧ (∀ c ∈ rest.head?, isNameRest c = false) ∧
      pathLength text = path.length := by
  unfold pathLength at found ⊢
  by_cases none : nameLength text = 0
  · exact absurd (if_pos none) found
  · obtain ⟨word, behind, same, named, ends, length⟩ := word_of_nameLength none
    have drops : text.drop (nameLength text) = behind := by
      rw [length, same, List.drop_left]
    obtain ⟨scopes, rest, parts, more, stops, further⟩ :=
      scopes_of_pathRestLength ends
    refine ⟨word ++ scopes, rest, by rw [same, parts, List.append_assoc], .mk named more, stops, ?_⟩
    rw [if_neg none, drops, further, length, List.length_append]

theorem isPath_exact : isPath text = true ↔ Path text := by
  unfold isPath
  simp only [Bool.and_eq_true, decide_eq_true_eq, beq_iff_eq]
  constructor
  · rintro ⟨positive, whole⟩
    obtain ⟨path, rest, rfl, found, _, length⟩ := path_of_pathLength (Nat.ne_of_gt positive)
    rw [length, List.length_append] at whole
    cases List.length_eq_zero_iff.mp (Nat.left_eq_add.mp whole)
    rwa [List.append_nil]
  · intro path
    have length : pathLength (text ++ []) = text.length := pathLength_path path (by simp)
    rw [List.append_nil] at length
    obtain ⟨named, _⟩ := path
    have nonempty := List.length_pos_iff.mpr named.ne_nil
    rw [length, List.length_append]
    exact ⟨by omega, rfl⟩

theorem dropWhile_digits {digits : List Char} (whole : Digits digits) (behind : List Char)
    (ends : ∀ c ∈ behind.head?, Text.isDecimalDigit c = false) :
    (digits ++ behind).dropWhile Text.isDecimalDigit = behind := by
  rw [List.dropWhile_append_of_pos whole.all]
  cases behind with
  | nil => rfl
  | cons c _ => simp [ends c rfl]

theorem isUnsignedNumber_exact : isUnsignedNumber text = true ↔ Unsigned text := by
  constructor
  · intro accepted
    unfold isUnsignedNumber at accepted
    simp only [Bool.and_eq_true, decide_eq_true_eq] at accepted
    obtain ⟨shorter, fraction⟩ := accepted
    have parts := List.takeWhile_append_dropWhile (p := Text.isDecimalDigit) (l := text)
    have whole : Digits (text.takeWhile Text.isDecimalDigit) := by
      refine ⟨?_, fun c member => List.mem_takeWhile_imp member⟩
      intro none
      rw [none, List.nil_append] at parts
      rw [parts] at shorter
      exact absurd shorter (Nat.lt_irrefl _)
    split at fraction
    · rename_i nothing
      rw [nothing, List.append_nil] at parts
      rw [← parts]
      exact .whole whole
    · rename_i behind found
      simp only [Bool.and_eq_true, Bool.not_eq_true', List.isEmpty_eq_false_iff,
        List.all_eq_true] at fraction
      rw [found] at parts
      rw [← parts]
      exact .fraction whole ⟨fraction.1, fraction.2⟩
    · exact nomatch fraction
  · intro unsigned
    cases unsigned with
    | whole whole =>
      have behind : text.dropWhile Text.isDecimalDigit = [] := by
        simpa using dropWhile_digits whole [] (by simp)
      simp [isUnsignedNumber, behind, List.length_pos_iff.mpr whole.some]
    | @fraction digits behind whole fraction =>
      have point : Text.isDecimalDigit '.' = false := by decide
      have rest := dropWhile_digits whole ('.' :: behind) (by simp [point])
      simp [isUnsignedNumber, rest, List.length_pos_iff.mpr whole.some, fraction.some]
      exact fraction.all

theorem Unsigned.start (unsigned : Unsigned text) :
    ∃ c rest, text = c :: rest ∧ Text.isDecimalDigit c = true := by
  have first {digits : List Char} (whole : Digits digits) (behind : List Char) :
      ∃ c rest, digits ++ behind = c :: rest ∧ Text.isDecimalDigit c = true := by
    cases digits with
    | nil => exact absurd rfl whole.some
    | cons c rest => exact ⟨c, rest ++ behind, rfl, whole.all c (List.mem_cons_self ..)⟩
  cases unsigned with
  | whole whole => simpa using first whole []
  | fraction whole _ => exact first whole _

theorem isNumber_exact : isNumber text = true ↔ Number text := by
  constructor
  · intro accepted
    unfold isNumber at accepted
    split at accepted
    · exact .negative (isUnsignedNumber_exact.mp accepted)
    · exact .positive (isUnsignedNumber_exact.mp accepted)
  · intro number
    cases number with
    | negative unsigned => exact isUnsignedNumber_exact.mpr unsigned
    | positive unsigned =>
      obtain ⟨c, rest, rfl, digit⟩ := unsigned.start
      have other : c ≠ '-' := by
        rintro rfl
        exact absurd digit (by decide)
      unfold isNumber
      split
      · rename_i same
        cases same
        exact absurd rfl other
      · exact isUnsignedNumber_exact.mpr unsigned

theorem isQuoted_exact : isQuoted text = true ↔ ∃ inner, Line text inner := by
  simp only [isQuoted, Bool.and_eq_true, decide_eq_true_eq, beq_iff_eq, Bool.not_eq_true']
  constructor
  · rintro ⟨⟨⟨long, first⟩, last⟩, single⟩
    obtain ⟨tail, rfl⟩ := List.head?_eq_some_iff.mp first
    obtain ⟨inner, same⟩ := List.getLast?_eq_some_iff.mp last
    cases inner with
    | nil =>
      cases same
      simp at long
    | cons c inner =>
      cases same
      refine ⟨inner, .mk fun member => ?_⟩
      simp [member] at single
  · rintro ⟨inner, line⟩
    cases line with
    | mk single =>
      have last : ('"' :: (inner ++ ['"'])).getLast? = some '"' :=
        List.getLast?_concat (l := '"' :: inner)
      simp [single, last]

theorem Line.inner {inner : List Char} (line : Line text inner) :
    (text.drop 1).dropLast = inner := by
  cases line
  simp

theorem arrayLength?_array {element : List Char} (array : ArrayType text element) :
    arrayLength? (text ++ rest) = some text.length := by
  obtain ⟨named⟩ := array
  have ends : ∀ c ∈ ('>' :: rest).head?, isNameRest c = false := by
    intro c same
    cases same
    decide
  have length := nameLength_word named ends
  simp [arrayLength?, length, named.ne_nil]

theorem array_of_arrayLength {n : Nat} (found : arrayLength? text = some n) :
    ∃ array rest element, text = array ++ rest ∧ ArrayType array element ∧ n = array.length := by
  unfold arrayLength? at found
  split at found
  · rename_i rest
    simp only at found
    split at found
    · rename_i tail closes
      split at found
      · cases found
      · rename_i positive
        obtain ⟨word, more, rfl, named, _, length⟩ := word_of_nameLength positive
        rw [length, List.drop_left] at closes
        subst closes
        refine ⟨_, tail, word, ?_, .mk named, ?_⟩
        · simp
        · cases found
          simp [length]
    · cases found
  · cases found

theorem arrayLength?_exact :
    arrayLength? text = some text.length ↔ ∃ element, ArrayType text element := by
  constructor
  · intro whole
    obtain ⟨array, rest, element, rfl, found, length⟩ := array_of_arrayLength whole
    rw [List.length_append] at length
    cases List.length_eq_zero_iff.mp (Nat.add_eq_left.mp length)
    exact ⟨element, by rwa [List.append_nil]⟩
  · rintro ⟨element, array⟩
    have length : arrayLength? (text ++ []) = some text.length := arrayLength?_array array
    rwa [List.append_nil] at length

theorem ArrayType.named {element : List Char} (array : ArrayType text element) : Word element := by
  cases array with
  | mk named => exact named

theorem ArrayType.inner {element : List Char} (array : ArrayType text element) :
    (text.drop 6).dropLast = element := by
  cases array
  simp

theorem arrayElement?_exact {element : List Char} :
    arrayElement? text = some element ↔ ArrayType text element := by
  unfold arrayElement?
  split
  · rename_i whole
    obtain ⟨found, array⟩ := arrayLength?_exact.mp whole
    rw [array.inner]
    constructor
    · rintro ⟨⟩
      exact array
    · intro other
      rw [← array.inner, other.inner]
  · rename_i partly
    constructor
    · intro found
      cases found
    · intro array
      exact absurd (arrayLength?_exact.mpr ⟨element, array⟩) partly

theorem Line.head {inner : List Char} (line : Line text inner) : text.head? = some '"' := by
  cases line
  rfl

theorem ArrayType.head {element : List Char} (array : ArrayType text element) :
    text.head? = some 'a' := by
  cases array
  simp

theorem Number.head (number : Number text) :
    ∃ c, text.head? = some c ∧ (c = '-' ∨ Text.isDecimalDigit c = true) := by
  cases number with
  | negative _ => exact ⟨'-', rfl, .inl rfl⟩
  | positive unsigned =>
    obtain ⟨c, rest, rfl, digit⟩ := unsigned.start
    exact ⟨c, rfl, .inr digit⟩

theorem Path.head (path : Path text) : ∃ c, text.head? = some c ∧ isNameStart c = true := by
  obtain ⟨⟨⟨c, rest, rfl, start⟩, _⟩, _⟩ := path
  exact ⟨c, rfl, start⟩

theorem Scopes.chars (more : Scopes text) : ∀ c ∈ text, isNameRest c = true ∨ c = ':' := by
  induction more with
  | nil => simp
  | cons named _ ih =>
    intro c member
    simp only [List.mem_cons, List.mem_append] at member
    rcases member with rfl | rfl | inside | later
    · exact .inr rfl
    · exact .inr rfl
    · exact .inl (named.all c inside)
    · exact ih c later

theorem Path.chars (path : Path text) : ∀ c ∈ text, isNameRest c = true ∨ c = ':' := by
  obtain ⟨named, more⟩ := path
  intro c member
  rcases List.mem_append.mp member with inside | later
  · exact .inl (named.all c inside)
  · exact more.chars c later

theorem not_digit_of_start {c : Char} (start : isNameStart c = true) :
    c ≠ '-' ∧ Text.isDecimalDigit c = false := by
  rw [isNameStart, Bool.or_eq_true, beq_iff_eq] at start
  rcases start with letter | rfl
  · have either : (c.isUpper || c.isLower) = true := letter
    have upper : c.isUpper = decide (c.val ≥ 65 ∧ c.val ≤ 90) := rfl
    have lower : c.isLower = (decide (c.val ≥ 97) && decide (c.val ≤ 122)) := rfl
    have digit : c.isDigit = (decide (c.val ≥ 48) && decide (c.val ≤ 57)) := rfl
    have small : c.toNat < 128 ∧ c.isDigit = false ∧ c.toNat ≠ 45 := by
      simp only [upper, lower, Bool.or_eq_true, Bool.and_eq_true, decide_eq_true_eq,
        UInt32.le_iff_toNat_le, ge_iff_le, UInt32.reduceToNat] at either
      simp only [digit, Bool.and_eq_false_iff, decide_eq_false_iff_not, UInt32.le_iff_toNat_le,
        ge_iff_le, UInt32.reduceToNat, Char.toNat]
      omega
    obtain ⟨ascii, none, other⟩ := small
    refine ⟨?_, by simp [Text.isDecimalDigit, ascii, none]⟩
    rintro rfl
    exact other rfl
  · decide

theorem Line.not_array {inner element : List Char} (line : Line text inner) :
    ¬ArrayType text element := by
  intro array
  cases line.head.symm.trans array.head

theorem Number.not_array {element : List Char} (number : Number text) :
    ¬ArrayType text element := by
  intro array
  obtain ⟨c, first, kind⟩ := number.head
  cases first.symm.trans array.head
  exact absurd kind (by decide)

theorem Number.not_line {inner : List Char} (number : Number text) : ¬Line text inner := by
  intro line
  obtain ⟨c, first, kind⟩ := number.head
  cases first.symm.trans line.head
  exact absurd kind (by decide)

theorem Path.not_array {element : List Char} (path : Path text) : ¬ArrayType text element := by
  intro array
  cases array with
  | mk named => exact absurd (path.chars '<' (by simp)) (by decide)

theorem Path.not_line {inner : List Char} (path : Path text) : ¬Line text inner := by
  intro line
  obtain ⟨c, first, start⟩ := path.head
  cases first.symm.trans line.head
  exact absurd start (by decide)

theorem Path.not_number (path : Path text) : ¬Number text := by
  intro number
  obtain ⟨c, first, start⟩ := path.head
  obtain ⟨d, again, kind⟩ := number.head
  cases first.symm.trans again
  obtain ⟨other, none⟩ := not_digit_of_start start
  rcases kind with minus | digit
  · exact other minus
  · simp [none] at digit

end

section

variable {text : String}

theorem nodeName?_exact {name : String} : nodeName? text = some name ↔ Names text name := by
  unfold nodeName?
  constructor
  · intro found
    split at found
    · rename_i accepted
      cases found
      exact .bare (isPath_exact.mp accepted)
    · split at found
      · rename_i accepted
        obtain ⟨inner, line⟩ := isQuoted_exact.mp accepted
        cases found
        rw [unquote, line.inner]
        exact .quoted line
      · cases found
  · intro names
    cases names with
    | bare path => rw [if_pos (isPath_exact.mpr path)]
    | quoted line =>
      have bare : ¬isPath text.toList = true := fun path => (isPath_exact.mp path).not_line line
      rw [if_neg bare, if_pos (isQuoted_exact.mpr ⟨_, line⟩), unquote, line.inner]

theorem ofText?_exact {s : Scalar} : Scalar.ofText? text = some s ↔ Denotes text s := by
  unfold Scalar.ofText?
  simp only
  constructor
  · intro found
    split at found
    · rename_i element array
      cases found
      exact .arrayOf (arrayElement?_exact.mp array)
    · split at found
      · rename_i accepted
        obtain ⟨inner, line⟩ := isQuoted_exact.mp accepted
        cases found
        rw [unquote, line.inner]
        exact .quoted line
      · split at found
        · rename_i accepted
          cases found
          exact .number (isNumber_exact.mp accepted)
        · split at found
          · rename_i accepted
            cases found
            exact .name (isPath_exact.mp accepted)
          · cases found
  · -- No class but the own one takes the text.
    have noArray (never : ∀ element, ¬ArrayType text.toList element) :
        arrayElement? text.toList = none := by
      refine Option.eq_none_iff_forall_not_mem.mpr fun element found => ?_
      exact never element (arrayElement?_exact.mp found)
    have noLine (never : ∀ inner, ¬Line text.toList inner) : ¬isQuoted text.toList = true := by
      intro accepted
      obtain ⟨inner, line⟩ := isQuoted_exact.mp accepted
      exact never inner line
    intro denotes
    cases denotes with
    | arrayOf array => rw [arrayElement?_exact.mpr array]
    | quoted line =>
      rw [noArray fun _ => line.not_array]
      simp only
      rw [if_pos (isQuoted_exact.mpr ⟨_, line⟩), unquote, line.inner]
    | number number =>
      rw [noArray fun _ => number.not_array]
      simp only
      rw [if_neg (noLine fun _ => number.not_line), if_pos (isNumber_exact.mpr number)]
    | name path =>
      have noNumber : ¬isNumber text.toList = true :=
        fun number => path.not_number (isNumber_exact.mp number)
      rw [noArray fun _ => path.not_array]
      simp only
      rw [if_neg (noLine fun _ => path.not_line), if_neg noNumber,
        if_pos (isPath_exact.mpr path)]

end

end WireSchema.Source
