import WireSchema.Proofs.Source.Tokens
import WireSchema.Proofs.Source.Unplaced

namespace WireSchema.Source

inductive Reads : Position → Option Char → List Char → List Token → Prop where
  | done {p : Position} {previous : Option Char} : Reads p previous [] [⟨"", p⟩]
  | skip {p : Position} {previous : Option Char} {piece rest : List Char} {tokens : List Token}
      (stands : Piece previous rest piece) (apart : ∀ c ∈ rest.head?, Apart c)
      (skipped : isSkipped piece = true)
      (more : Reads (p.after piece) piece.getLast? rest tokens) :
      Reads p previous (piece ++ rest) tokens
  | keep {p : Position} {previous : Option Char} {piece rest : List Char} {tokens : List Token}
      (stands : Piece previous rest piece) (apart : ∀ c ∈ rest.head?, Apart c)
      (solid : isSkipped piece = false)
      (more : Reads (p.after piece) piece.getLast? rest tokens) :
      Reads p previous (piece ++ rest) (⟨String.ofList piece, p⟩ :: tokens)

inductive Gap : List Char → Prop where
  | nil : Gap []
  | blank {c : Char} {rest : List Char} (blank : Text.isBlank c = true) (more : Gap rest) :
      Gap (c :: rest)
  | comment {mark line rest : List Char} (marks : mark = ['/', '/'] ∨ mark = ['#'])
      (single : '\n' ∉ line) (more : Gap rest) : Gap (mark ++ line ++ '\n' :: rest)

-- Tokens with something between any two of them. The last line of a text may be a comment.
inductive Spaced : List String → List Char → Prop where
  | last {gap : List Char} (between : Gap gap) : Spaced [] gap
  | comment {gap mark line : List Char} (between : Gap gap)
      (marks : mark = ['/', '/'] ∨ mark = ['#']) (single : '\n' ∉ line) :
      Spaced [] (gap ++ (mark ++ line))
  | token {text : String} {texts : List String} {gap rest : List Char} (between : Gap gap)
      (apart : texts ≠ [] → gap ≠ []) (more : Spaced texts rest) :
      Spaced (text :: texts) (text.toList ++ (gap ++ rest))

inductive Laid (texts : List String) : List Char → Prop where
  | mk {gap rest : List Char} (between : Gap gap) (spaced : Spaced texts rest) :
      Laid texts (gap ++ rest)

section

variable {p : Position} {previous : Option Char} {piece rest gap text : List Char}
  {texts : List String}

theorem Position.after_append : p.after (piece ++ rest) = (p.after piece).after rest := by
  induction piece generalizing p with
  | nil => rfl
  | cons c tail ih =>
    rw [List.cons_append, after, after]
    split
    · exact ih
    · exact ih

theorem scan_piece (nonempty : piece ≠ [])
    (found : lexemeLength? previous (piece ++ rest) = some piece.length) :
    scan p previous (piece ++ rest) =
      (scan (p.after piece) piece.getLast? rest).map
        (if isSkipped piece then id else List.cons ⟨String.ofList piece, p⟩) := by
  obtain ⟨c, tail, rfl⟩ := List.exists_cons_of_ne_nil nonempty
  rw [List.cons_append] at found ⊢
  have front : (tail ++ rest).take tail.length = tail := List.take_left
  have behind : (tail ++ rest).drop tail.length = rest := List.drop_left
  rw [scan, found]
  simp only [List.length_cons, Nat.add_sub_cancel, front, behind]
  cases scan (p.after (c :: tail)) (c :: tail).getLast? rest with
  | error e => rfl
  | ok tokens => cases isSkipped (c :: tail) <;> rfl

theorem apart_of_scan {tokens : List Token} (read : scan p previous text = .ok tokens) :
    ∀ c ∈ text.head?, Apart c := by
  intro c first
  obtain ⟨rest, rfl⟩ := List.head?_eq_some_iff.mp first
  cases found : lexemeLength? previous (c :: rest) with
  | none =>
    rw [scan, found] at read
    cases read
  | some n => exact apart_of_length found

theorem scan_reads {tokens : List Token} :
    scan p previous text = .ok tokens ↔ Reads p previous text tokens := by
  constructor
  · intro read
    fun_induction scan p previous text generalizing tokens with
    | case1 =>
      cases read
      exact .done
    | case2 => cases read
    | case3 => cases read
    | case4 p previous c rest n found piece tokens more =>
      rename_i ih
      cases read
      obtain ⟨front, behind, whole, stands, rfl⟩ := piece_of_length found
      obtain ⟨d, tail, rfl⟩ := List.exists_cons_of_ne_nil stands.ne_nil
      rw [List.cons_append] at whole
      obtain ⟨rfl, rfl⟩ := List.cons.inj whole
      have same : piece = c :: tail := congrArg (c :: ·) List.take_left
      have further : (tail ++ behind).drop ((c :: tail).length - 1) = behind := List.drop_left
      rw [further] at more ih
      have apart := apart_of_scan more
      rw [same] at more ih ⊢
      by_cases skipped : isSkipped (c :: tail) = true
      · rw [if_pos skipped]
        exact .skip stands apart skipped (ih more)
      · rw [if_neg skipped]
        exact .keep stands apart (Bool.eq_false_iff.mpr skipped) (ih more)
  · intro reads
    induction reads with
    | done => rw [scan]
    | skip stands apart skipped _ ih =>
      rw [scan_piece stands.ne_nil (stands.length apart), ih, skipped]
      rfl
    | keep stands apart solid _ ih =>
      rw [scan_piece stands.ne_nil (stands.length apart), ih, solid]
      rfl

theorem scan_blank {c : Char} (blank : Text.isBlank c = true) :
    scan p previous (c :: rest) = scan (p.after [c]) (some c) rest := by
  obtain ⟨run, behind, rfl, all, ends⟩ : ∃ run behind, rest = run ++ behind ∧
      (∀ c ∈ run, Text.isBlank c = true) ∧ ∀ c ∈ behind.head?, Text.isBlank c = false :=
    ⟨_, _, List.takeWhile_append_dropWhile.symm, fun c member => List.mem_takeWhile_imp member,
      dropWhile_ends⟩
  have length (before : Option Char) {d : Char} {tail : List Char}
      (each : ∀ c ∈ d :: tail, Text.isBlank c = true) :
      lexemeLength? before (d :: tail ++ behind) = some (d :: tail).length := by
    rw [List.cons_append, lexemeLength?_blank (each d (List.mem_cons_self ..)), ← List.cons_append,
      takeWhile_run each ends]
  have whole : scan p previous (c :: run ++ behind) =
      scan (p.after (c :: run)) (c :: run).getLast? behind := by
    rw [scan_piece (List.cons_ne_nil _ _) (length _ (List.forall_mem_cons.mpr ⟨blank, all⟩))]
    simp only [isSkipped_of_blank blank, if_true, Except.map_id, id]
  rw [← List.cons_append, whole]
  cases run with
  | nil => rfl
  | cons d tail =>
    rw [scan_piece (List.cons_ne_nil _ _) (length _ all), ← Position.after_append]
    simp only [isSkipped_of_blank (all d (List.mem_cons_self ..)), if_true, Except.map_id, id]
    rfl

theorem scan_comment {mark line : List Char} (marks : mark = ['/', '/'] ∨ mark = ['#'])
    (single : '\n' ∉ line) (ends : ∀ c ∈ rest.head?, c = '\n') :
    scan p previous (mark ++ line ++ rest) =
      scan (p.after (mark ++ line)) (mark ++ line).getLast? rest := by
  have read : Piece previous rest (mark ++ line) := .comment marks single ends
  have apart : ∀ c ∈ rest.head?, Apart c := by
    intro c first
    rw [ends c first]
    exact ⟨by decide, by decide, by decide⟩
  have skipped : isSkipped (mark ++ line) = true := by
    rcases marks with rfl | rfl <;> rfl
  rw [scan_piece read.ne_nil (read.length apart)]
  simp only [skipped, if_true, Except.map_id, id]

theorem getLast?_or {before : Option Char} {c : Char} {line : List Char} :
    (c :: line).getLast?.or before = line.getLast?.or (some c) := by
  rw [List.getLast?_cons]
  cases line.getLast? <;> rfl

theorem Gap.moves (between : Gap gap) :
    scan p previous (gap ++ rest) = scan (p.after gap) (gap.getLast?.or previous) rest := by
  induction between generalizing p previous with
  | nil => rfl
  | @blank c more blank _ ih =>
    rw [List.cons_append, scan_blank blank, ih, ← Position.after_append, getLast?_or]
    rfl
  | @comment mark line more marks single _ ih =>
    have newline : Text.isBlank '\n' = true := by decide
    rw [List.append_assoc, scan_comment marks single (by simp), List.cons_append,
      scan_blank newline, ih, ← Position.after_append, ← Position.after_append,
      List.getLast?_append, Option.or_assoc, getLast?_or]
    simp

theorem closing_of_blank {c : Char} (blank : Text.isBlank c = true) : Closing c := by
  have other {d : Char} (solid : Text.isBlank d = false) : c ≠ d := by
    rintro rfl
    cases blank.symm.trans solid
  exact ⟨⟨other (by decide), other (by decide), other (by decide)⟩,
    Text.not_isWordChar_of_blank blank⟩

theorem closing_of_mark {mark line : List Char} (marks : mark = ['/', '/'] ∨ mark = ['#']) :
    ∀ c ∈ (mark ++ line).head?, Closing c := by
  intro c first
  rcases marks with rfl | rfl
  all_goals
    cases first
    exact ⟨⟨by decide, by decide, by decide⟩, by decide⟩

theorem Gap.closing (between : Gap gap) (ends : gap = [] → ∀ c ∈ rest.head?, Closing c) :
    ∀ c ∈ (gap ++ rest).head?, Closing c := by
  cases between with
  | nil => exact ends rfl
  | blank blank _ =>
    intro c first
    cases first
    exact closing_of_blank blank
  | comment marks _ _ =>
    rw [List.append_assoc, List.append_assoc]
    exact closing_of_mark marks

theorem Gap.last (between : Gap gap)
    (starts : gap = [] → ∀ c ∈ previous, Text.isWordChar c = false) :
    ∀ c ∈ gap.getLast?.or previous, Text.isWordChar c = false := by
  induction between generalizing previous with
  | nil => exact starts rfl
  | blank blank _ ih =>
    rw [getLast?_or]
    refine ih fun _ => ?_
    simpa using Text.not_isWordChar_of_blank blank
  | comment _ _ _ ih =>
    rw [List.getLast?_append, Option.or_assoc, getLast?_or]
    refine ih fun _ => ?_
    simp only [Option.mem_def, Option.some.injEq, forall_eq']
    decide

theorem Spaced.closing (spaced : Spaced [] rest) : ∀ c ∈ rest.head?, Closing c := by
  cases spaced with
  | last between =>
    rw [← List.append_nil rest]
    exact between.closing (by simp)
  | comment between marks _ => exact between.closing fun _ => closing_of_mark marks

theorem isSkipped_of_word {c : Char} (word : Text.isWordChar c = true) :
    isSkipped (c :: rest) = false := by
  have slash : c ≠ '/' := by
    rintro rfl
    exact absurd word (by decide)
  have hash : c ≠ '#' := by
    rintro rfl
    exact absurd word (by decide)
  have solid : Text.isBlank c = false := by
    rw [Bool.eq_false_iff]
    intro blank
    cases word.symm.trans (Text.not_isWordChar_of_blank blank)
  unfold isSkipped
  split
  · rename_i same
    exact absurd (List.cons.inj same).1 slash
  · rename_i same
    exact absurd (List.cons.inj same).1 hash
  · rename_i same
    cases same
    exact solid
  · rfl

theorem Lexeme.solid (lexeme : Lexeme piece) : isSkipped piece = false := by
  cases lexeme with
  | quoted _ => rfl
  | number number =>
    obtain ⟨c, first, rfl | digit⟩ := number.head
    all_goals obtain ⟨tail, rfl⟩ := List.head?_eq_some_iff.mp first
    · rfl
    · exact isSkipped_of_word (Text.isWordChar_of_digit digit)
  | array array =>
    obtain ⟨tail, rfl⟩ := List.head?_eq_some_iff.mp array.head
    rfl
  | mark marks =>
    have solid := punctuation_test (fun c => !isSkipped [c]) marks (by decide)
    simpa using solid
  | path path =>
    obtain ⟨c, first, start⟩ := path.head
    obtain ⟨tail, rfl⟩ := List.head?_eq_some_iff.mp first
    exact isSkipped_of_word (isWordChar_of_start start)

theorem Spaced.reads (spaced : Spaced texts text) (lexemes : ∀ t ∈ texts, Lexeme t.toList)
    (starts : texts ≠ [] → ∀ c ∈ previous, Text.isWordChar c = false) :
    ∃ tokens, scan p previous text = .ok tokens ∧ tokens.map Token.text = texts ++ [""] := by
  induction spaced generalizing p previous with
  | @last gap between =>
    rw [← List.append_nil gap, between.moves, scan]
    exact ⟨_, rfl, rfl⟩
  | @comment gap mark line between marks single =>
    rw [between.moves, ← List.append_nil (mark ++ line), scan_comment marks single (by simp), scan]
    exact ⟨_, rfl, rfl⟩
  | @token t texts gap rest between apart more ih =>
    have lexeme := lexemes t (List.mem_cons_self ..)
    have ends : ∀ c ∈ (gap ++ rest).head?, Closing c := by
      refine between.closing fun none => ?_
      cases texts with
      | nil => exact more.closing
      | cons _ _ => exact absurd none (apart (by simp))
    have read := lexeme.stands ends (starts (by simp))
    have others : ∀ t ∈ texts, Lexeme t.toList :=
      fun t member => lexemes t (List.mem_cons_of_mem _ member)
    obtain ⟨tokens, scanned, same⟩ :=
      ih others fun some => between.last fun none => absurd none (apart some)
    rw [scan_piece read.ne_nil (read.length fun c first => (ends c first).toApart), between.moves,
      scanned, lexeme.solid]
    refine ⟨_, rfl, ?_⟩
    simp [same]

-- Each token but the last is a lexeme, whatever stood around it.
theorem Reads.lexemes {tokens : List Token} (reads : Reads p previous text tokens) :
    ∃ texts, tokens.map Token.text = texts ++ [""] ∧ ∀ t ∈ texts, Lexeme t.toList := by
  induction reads with
  | done => exact ⟨[], rfl, by simp⟩
  | skip _ _ _ _ ih => exact ih
  | @keep _ _ piece _ _ stands _ solid _ ih =>
    obtain ⟨texts, same, lexemes⟩ := ih
    refine ⟨String.ofList piece :: texts, by simp [same], List.forall_mem_cons.mpr ⟨?_, lexemes⟩⟩
    rw [String.toList_ofList]
    exact stands.lexeme solid

end

-- Layout and comments change nothing: texts made of the same tokens are read as the same tokens,
-- and as the same tree or as none.
theorem tokenize_laid {text other : String} {tokens : List Token} {texts : List String}
    (read : tokenize text = .ok tokens) (same : tokens.map Token.text = texts ++ [""])
    (laid : Laid texts other.toList) :
    ∃ again, tokenize other = .ok again ∧ again.map Token.text = tokens.map Token.text ∧
      (parseNodes again).toOption.map unplacedAll =
        (parseNodes tokens).toOption.map unplacedAll := by
  obtain ⟨found, equal, lexemes⟩ := (scan_reads.mp read).lexemes
  obtain ⟨rfl, _⟩ := List.append_inj' (same.symm.trans equal) rfl
  obtain ⟨again, scanned, texts⟩ : ∃ again, tokenize other = .ok again ∧
      again.map Token.text = texts ++ [""] := by
    unfold tokenize
    generalize other.toList = characters at laid ⊢
    cases laid with
    | @mk gap rest between spaced =>
      rw [between.moves]
      exact spaced.reads lexemes fun _ => between.last fun _ => by simp
  have alike := texts.trans same.symm
  exact ⟨again, scanned, alike, parseNodes_unplaced alike⟩

theorem tokenize_laid_limit : ∃ tokens again, tokenize "limit=[-1.5,array<int>];" = .ok tokens ∧
    Laid ["limit", "=", "[", "-1.5", ",", "array<int>", "]", ";"]
      "# most\nlimit = [ -1.5 //\n, array<int> ] ;".toList ∧
    tokenize "# most\nlimit = [ -1.5 //\n, array<int> ] ;" = .ok again ∧
    again.map Token.text = tokens.map Token.text ∧
    (parseNodes tokens).toOption.isSome ∧
    (parseNodes again).toOption.map unplacedAll = (parseNodes tokens).toOption.map unplacedAll := by
  have space : Gap [' '] := .blank (by decide) .nil
  have first : Gap ['#', ' ', 'm', 'o', 's', 't', '\n'] :=
    @Gap.comment ['#'] [' ', 'm', 'o', 's', 't'] [] (.inr rfl) (by decide) .nil
  have second : Gap [' ', '/', '/', '\n'] :=
    .blank (by decide) (@Gap.comment ['/', '/'] [] [] (.inl rfl) (by decide) .nil)
  have laid : Laid ["limit", "=", "[", "-1.5", ",", "array<int>", "]", ";"]
      "# most\nlimit = [ -1.5 //\n, array<int> ] ;".toList :=
    .mk first (.token space (by simp) (.token space (by simp) (.token space (by simp)
      (.token second (by simp) (.token space (by simp) (.token space (by simp)
      (.token space (by simp) (.token .nil (by simp) (.last .nil)))))))))
  have texts : (tokenize "limit=[-1.5,array<int>];").toOption.map (List.map Token.text) =
      some ["limit", "=", "[", "-1.5", ",", "array<int>", "]", ";", ""] := by
    decide +kernel
  have tree : ((tokenize "limit=[-1.5,array<int>];").toOption.bind
      fun tokens => (parseNodes tokens).toOption).isSome = true := by
    decide +kernel
  cases read : tokenize "limit=[-1.5,array<int>];" with
  | error e =>
    rw [read] at texts
    cases texts
  | ok tokens =>
    rw [read] at texts tree
    have same : tokens.map Token.text =
        ["limit", "=", "[", "-1.5", ",", "array<int>", "]", ";"] ++ [""] := Option.some.inj texts
    obtain ⟨again, found, same, alike⟩ := tokenize_laid read same laid
    exact ⟨tokens, again, rfl, laid, found, same, tree, alike⟩

end WireSchema.Source
