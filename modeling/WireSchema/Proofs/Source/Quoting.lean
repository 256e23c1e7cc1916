import WireSchema.Proofs.Source.Spacing

namespace WireSchema.Source

def literalChar : Char → List Char
  | '\\' => ['\\', '\\']
  | '"' => ['\\', '"']
  | '\n' => ['\\', 'n']
  | c => [c]

def literal (s : String) : String :=
  String.ofList ('"' :: (s.toList.flatMap literalChar ++ ['"']))

inductive ItemsAround : List Token → List Token → (Scalar → List Scalar) → Prop where
  | last {close : Token} (closes : close.text = "]") : ItemsAround [] [close] fun s => [s]
  | here {comma : Token} {rest : List Token} {items : List Scalar} (separates : comma.text = ",")
      (others : Items rest items) : ItemsAround [] (comma :: rest) fun s => s :: items
  | later {item comma : Token} {front back : List Token} {first : Scalar}
      {items : Scalar → List Scalar} (denotes : Denotes item.text first)
      (separates : comma.text = ",") (others : ItemsAround front back items) :
      ItemsAround (item :: comma :: front) back fun s => first :: items s

inductive ValueAround : List Token → List Token → (Scalar → Content Node) → Prop where
  | scalar : ValueAround [] [] fun s => .scalar s
  | list {start : Token} {front back : List Token} {items : Scalar → List Scalar}
      (opens : start.text = "[") (inside : ItemsAround front back items) :
      ValueAround (start :: front) back fun s => .list (items s)

inductive Around : List Token → List Token → (String → List Node) → Prop where
  | value {heading front back rest : List Token} {key equals semicolon : Token}
      {name : Option String} {content : Scalar → Content Node} {nodes : List Node}
      (heads : Heading heading key name) (assigns : equals.text = "=")
      (inside : ValueAround front back content) (ends : semicolon.text = ";")
      (others : Spells rest nodes) :
      Around (heading ++ equals :: front) (back ++ semicolon :: rest)
        fun s => ⟨key.text, name, content (.quoted s), key.position⟩ :: nodes
  | name {key : Token} {tail rest : List Token} {content : Content Node} {nodes : List Node}
      (path : Path key.text.toList) (tells : Plain tail content) (others : Spells rest nodes) :
      Around [key] (tail ++ rest) fun s => ⟨key.text, some s, content, key.position⟩ :: nodes
  | blockName {key start close : Token} {body rest : List Token} {children nodes : List Node}
      (path : Path key.text.toList) (opens : start.text = "\x7b") (inside : Spells body children)
      (closes : close.text = "\x7d") (others : Spells rest nodes) :
      Around [key] (start :: (body ++ close :: rest))
        fun s => ⟨key.text, some s, .block children, key.position⟩ :: nodes
  | child {heading front back rest : List Token} {key start close : Token} {name : Option String}
      {children : String → List Node} {nodes : List Node} (heads : Heading heading key name)
      (opens : start.text = "\x7b") (inside : Around front back children)
      (closes : close.text = "\x7d") (others : Spells rest nodes) :
      Around (heading ++ start :: front) (back ++ close :: rest)
        fun s => ⟨key.text, name, .block (children s), key.position⟩ :: nodes
  | later {first front back : List Token} {node : Node} {nodes : String → List Node}
      (one : Spells first [node]) (others : Around front back nodes) :
      Around (first ++ front) back fun s => node :: nodes s

-- What may stand in place of the rest of a text: it starts in the same way, or with a quote where
-- no line has ended.
def Instead (rest other : List Char) : Prop :=
  other.head? = rest.head? ∨ other.head? = some '"' ∧ ∃ c ∈ rest.head?, c ≠ '\n'

theorem literalChar_escapes : Escapes literalChar := by
  intro c
  unfold literalChar
  split
  · exact .inr ⟨'\\', rfl, by decide, fun _ => rfl⟩
  · exact .inr ⟨'"', rfl, by decide, fun _ => rfl⟩
  · exact .inr ⟨'n', rfl, by decide, fun _ => rfl⟩
  · rename_i backslash quote line
    exact .inl ⟨rfl, quote, backslash, line⟩

theorem Escapes.inside {written : Char → List Char} (escapes : Escapes written)
    (text : List Char) : Inside (text.flatMap written) := by
  induction text with
  | nil => exact .nil
  | cons c rest ih =>
    rw [List.flatMap_cons]
    rcases escapes c with ⟨same, quote, escape, line⟩ | ⟨d, escaped, line, _⟩
    · rw [same]
      exact .plain quote line escape ih
    · rw [escaped]
      exact .escaped line ih

section

variable {front back used rest : List Token} {token : Token} {inner : List Char}

theorem place_append (whole : front ++ token :: back = used ++ rest) :
    (∃ middle, used = front ++ token :: middle ∧ back = middle ++ rest) ∨
      ∃ middle, front = used ++ middle ∧ middle ++ token :: back = rest := by
  rcases List.append_eq_append_iff.mp whole with ⟨middle, parts, more⟩ | ⟨middle, parts, more⟩
  · cases middle with
    | nil => exact .inr ⟨[], by simpa using parts.symm, by simpa using more⟩
    | cons t middle =>
      obtain ⟨rfl, rfl⟩ := List.cons.inj more
      exact .inl ⟨middle, parts, rfl⟩
  · exact .inr ⟨middle, parts, more.symm⟩

theorem place_cons {first : Token} (whole : front ++ token :: back = first :: rest) :
    (front = [] ∧ token = first ∧ back = rest) ∨
      ∃ middle, front = first :: middle ∧ middle ++ token :: back = rest := by
  cases front with
  | nil =>
    obtain ⟨rfl, rfl⟩ := List.cons.inj whole
    exact .inl ⟨rfl, rfl, rfl⟩
  | cons t middle =>
    obtain ⟨rfl, rfl⟩ := List.cons.inj whole
    exact .inr ⟨middle, rfl, rfl⟩

theorem place_behind {first : Token} (whole : front ++ token :: back = first :: rest)
    (other : token ≠ first) :
    ∃ middle, front = first :: middle ∧ middle ++ token :: back = rest := by
  rcases place_cons whole with ⟨_, same, _⟩ | behind
  · exact absurd same other
  · exact behind

theorem place_nil : front ++ token :: back ≠ [] := by
  simp

theorem Line.denotes (line : Line token.text.toList inner) {s : Scalar}
    (denotes : Denotes token.text s) : s = .quoted (String.ofList (unescape inner)) := by
  have one := ofText?_exact.mpr denotes
  have other := ofText?_exact.mpr (.quoted line)
  exact Option.some.inj (one.symm.trans other)

theorem Line.names (line : Line token.text.toList inner) {name : String}
    (names : Names token.text name) : name = String.ofList (unescape inner) := by
  have one := nodeName?_exact.mpr names
  have other := nodeName?_exact.mpr (.quoted line)
  exact Option.some.inj (one.symm.trans other)

theorem Line.not_mark (line : Line token.text.toList inner) {other : Token} {mark : String}
    (marks : other.text = mark) (quote : mark.toList.head? ≠ some '"') : token ≠ other := by
  rintro rfl
  exact quote (marks ▸ line.head)

theorem Line.not_key (line : Line token.text.toList inner) {key : Token}
    (path : Path key.text.toList) : token ≠ key := by
  rintro rfl
  exact path.not_line line

theorem Items.around (line : Line token.text.toList inner) {items : List Scalar}
    (inside : Items (front ++ token :: back) items) :
    ∃ tree, ItemsAround front back tree ∧
      items = tree (.quoted (String.ofList (unescape inner))) := by
  generalize whole : front ++ token :: back = used at inside
  induction inside generalizing front with
  | last denotes closes =>
    rcases place_cons whole with ⟨rfl, rfl, rfl⟩ | ⟨middle, rfl, further⟩
    · exact ⟨_, .last closes, by rw [line.denotes denotes]⟩
    · obtain ⟨_, _, beyond⟩ := place_behind further (line.not_mark closes (by decide))
      exact absurd beyond place_nil
  | more denotes separates others ih =>
    rcases place_cons whole with ⟨rfl, rfl, rfl⟩ | ⟨middle, rfl, further⟩
    · exact ⟨_, .here separates others, by rw [line.denotes denotes]⟩
    · obtain ⟨_, rfl, beyond⟩ := place_behind further (line.not_mark separates (by decide))
      obtain ⟨tree, around, rfl⟩ := ih beyond
      exact ⟨_, .later denotes separates around, rfl⟩

theorem Value.around (line : Line token.text.toList inner) {content : Content Node}
    (inside : Value (front ++ token :: back) content) :
    ∃ tree, ValueAround front back tree ∧
      content = tree (.quoted (String.ofList (unescape inner))) := by
  generalize whole : front ++ token :: back = used at inside
  cases inside with
  | scalar denotes =>
    rcases place_cons whole with ⟨rfl, rfl, rfl⟩ | ⟨_, _, further⟩
    · exact ⟨_, .scalar, by rw [line.denotes denotes]⟩
    · exact absurd further place_nil
  | empty opens closes =>
    obtain ⟨_, _, further⟩ := place_behind whole (line.not_mark opens (by decide))
    obtain ⟨_, _, beyond⟩ := place_behind further (line.not_mark closes (by decide))
    exact absurd beyond place_nil
  | list opens inside =>
    obtain ⟨middle, rfl, rfl⟩ := place_behind whole (line.not_mark opens (by decide))
    obtain ⟨tree, around, rfl⟩ := inside.around line
    exact ⟨_, .list opens around, rfl⟩

theorem Plain.around (line : Line token.text.toList inner) {content : Content Node}
    (tells : Plain (front ++ token :: back) content) :
    ∃ equals semicolon start behind tree, front = equals :: start ∧ back = behind ++ [semicolon] ∧
      equals.text = "=" ∧ semicolon.text = ";" ∧ ValueAround start behind tree ∧
      content = tree (.quoted (String.ofList (unescape inner))) := by
  generalize whole : front ++ token :: back = used at tells
  cases tells with
  | value assigns inside ends =>
    obtain ⟨start, rfl, further⟩ := place_behind whole (line.not_mark assigns (by decide))
    rcases place_append further with ⟨behind, rfl, rfl⟩ | ⟨_, _, beyond⟩
    · obtain ⟨tree, around, rfl⟩ := inside.around line
      exact ⟨_, _, _, _, tree, rfl, rfl, assigns, ends, around, rfl⟩
    · obtain ⟨_, _, last⟩ := place_behind beyond (line.not_mark ends (by decide))
      exact absurd last place_nil
  | flag ends =>
    obtain ⟨_, _, further⟩ := place_behind whole (line.not_mark ends (by decide))
    exact absurd further place_nil

theorem Heading.around (line : Line token.text.toList inner) {key : Token} {name : Option String}
    (heads : Heading (front ++ token :: back) key name) :
    front = [key] ∧ back = [] ∧ Path key.text.toList ∧
      name = some (String.ofList (unescape inner)) := by
  generalize whole : front ++ token :: back = used at heads
  cases heads with
  | bare path =>
    obtain ⟨_, _, further⟩ := place_behind whole (line.not_key path)
    exact absurd further place_nil
  | named path names =>
    obtain ⟨middle, rfl, further⟩ := place_behind whole (line.not_key path)
    rcases place_cons further with ⟨rfl, rfl, rfl⟩ | ⟨_, _, beyond⟩
    · exact ⟨rfl, rfl, path, by rw [line.names names]⟩
    · exact absurd beyond place_nil

theorem Spells.around (line : Line token.text.toList inner) {nodes : List Node}
    (spells : Spells (front ++ token :: back) nodes) :
    ∃ tree, Around front back tree ∧ nodes = tree (String.ofList (unescape inner)) := by
  generalize whole : front ++ token :: back = used at spells
  induction spells generalizing front back with
  | nil => exact absurd whole place_nil
  | plain heads tells others ih =>
    rcases place_append whole with ⟨middle, rfl, rfl⟩ | ⟨middle, rfl, further⟩
    · obtain ⟨rfl, rfl, path, rfl⟩ := heads.around line
      rw [List.nil_append]
      exact ⟨_, .name path tells others, rfl⟩
    · rcases place_append further with ⟨behind, rfl, rfl⟩ | ⟨front, rfl, beyond⟩
      · obtain ⟨equals, semicolon, start, behind, tree, rfl, rfl, assigns, ends, around, rfl⟩ :=
          tells.around line
        have place := Around.value heads assigns around ends others
        rw [← List.append_cons]
        exact ⟨_, place, rfl⟩
      · obtain ⟨tree, around, rfl⟩ := ih beyond
        have place := Around.later (.plain heads tells .nil) around
        rw [List.append_nil, List.append_assoc] at place
        exact ⟨_, place, rfl⟩
  | block heads opens inside closes others children later =>
    rcases place_append whole with ⟨middle, rfl, rfl⟩ | ⟨middle, rfl, further⟩
    · obtain ⟨rfl, rfl, path, rfl⟩ := heads.around line
      rw [List.nil_append]
      exact ⟨_, .blockName path opens inside closes others, rfl⟩
    · obtain ⟨middle, rfl, beyond⟩ := place_behind further (line.not_mark opens (by decide))
      rcases place_append beyond with ⟨behind, same, rfl⟩ | ⟨front, rfl, rest⟩
      · obtain ⟨tree, around, rfl⟩ := children same.symm
        exact ⟨_, .child heads opens around closes others, rfl⟩
      · obtain ⟨front, rfl, last⟩ := place_behind rest (line.not_mark closes (by decide))
        obtain ⟨tree, around, rfl⟩ := later last
        have place := Around.later (.block heads opens inside closes .nil) around
        simp only [List.append_assoc, List.cons_append, List.nil_append] at place
        exact ⟨_, place, rfl⟩

theorem ItemsAround.items (line : Line token.text.toList inner) {tree : Scalar → List Scalar}
    (around : ItemsAround front back tree) :
    Items (front ++ token :: back) (tree (.quoted (String.ofList (unescape inner)))) := by
  induction around with
  | last closes => exact .last (.quoted line) closes
  | here separates others => exact .more (.quoted line) separates others
  | later denotes separates _ ih => exact .more denotes separates ih

theorem ValueAround.value (line : Line token.text.toList inner) {tree : Scalar → Content Node}
    (around : ValueAround front back tree) :
    Value (front ++ token :: back) (tree (.quoted (String.ofList (unescape inner)))) := by
  cases around with
  | scalar => exact .scalar (.quoted line)
  | list opens inside => exact .list opens (inside.items line)

theorem spells_around (line : Line token.text.toList inner) {nodes : List Node} :
    Spells (front ++ token :: back) nodes ↔
      ∃ tree, Around front back tree ∧ nodes = tree (String.ofList (unescape inner)) := by
  constructor
  · exact Spells.around line
  · rintro ⟨tree, around, rfl⟩
    induction around with
    | value heads assigns inside ends others =>
      have tells := Plain.value assigns (inside.value line) ends
      simpa using Spells.plain heads tells others
    | name path tells others => exact .plain (.named path (.quoted line)) tells others
    | blockName path opens inside closes others =>
      exact .block (.named path (.quoted line)) opens inside closes others
    | child heads opens _ closes others ih => simpa using Spells.block heads opens ih closes others
    | later one _ ih =>
      rw [List.append_assoc]
      exact one.cons ih

end

section

variable {p : Position} {previous other : Option Char} {tokens : List Token}
  {before old after text rest piece : List Char}

theorem Position.after_progress (moved : List Char) :
    p.line < (p.after moved).line ∨
      p.line = (p.after moved).line ∧ p.column + moved.length ≤ (p.after moved).column := by
  induction moved generalizing p with
  | nil => exact .inr ⟨rfl, Nat.le_refl _⟩
  | cons c rest ih =>
    rw [after, List.length_cons]
    split
    · refine .inl ?_
      rcases @ih ⟨p.line + 1, 1⟩ with further | ⟨same, _⟩
      all_goals
        simp only at *
        omega
    · have positive := Char.utf8Size_pos c
      rcases @ih ⟨p.line, p.column + c.utf8Size⟩ with further | ⟨same, columns⟩
      · exact .inl further
      · refine .inr ⟨same, ?_⟩
        simp only at columns
        omega

theorem Position.after_inj (same : p.after (piece ++ rest) = p.after piece) : rest = [] := by
  rw [after_append] at same
  rcases @after_progress (p.after piece) rest with further | ⟨_, columns⟩
  · rw [same] at further
    exact absurd further (Nat.lt_irrefl _)
  · rw [same] at columns
    exact List.length_eq_zero_iff.mp (by omega)

theorem Reads.placed (reads : Reads p previous text tokens) :
    ∀ token ∈ tokens, ∃ front, token.position = p.after front := by
  induction reads with
  | done =>
    intro token member
    cases List.mem_singleton.mp member
    exact ⟨[], rfl⟩
  | @skip p _ piece _ _ _ _ _ _ ih =>
    intro token member
    obtain ⟨front, place⟩ := ih token member
    exact ⟨piece ++ front, place.trans Position.after_append.symm⟩
  | @keep p _ piece _ _ _ _ _ _ ih =>
    intro token member
    rcases List.mem_cons.mp member with rfl | later
    · exact ⟨[], rfl⟩
    · obtain ⟨front, place⟩ := ih token later
      exact ⟨piece ++ front, place.trans Position.after_append.symm⟩

theorem Reads.behind {token : Token} (reads : Reads (p.after piece) previous text tokens)
    (member : token ∈ tokens) (place : token.position = p.after before)
    (whole : before ++ rest = piece ++ text) :
    ∃ gap, before = piece ++ gap ∧ text = gap ++ rest := by
  obtain ⟨front, position⟩ := reads.placed token member
  rw [place, ← Position.after_append] at position
  rcases List.append_eq_append_iff.mp whole with ⟨gap, parts, more⟩ | ⟨gap, parts, more⟩
  · rw [parts, List.append_assoc] at position
    obtain ⟨rfl, rfl⟩ := List.append_eq_nil_iff.mp (Position.after_inj position.symm)
    exact ⟨[], by simpa using parts.symm, by simpa using more.symm⟩
  · exact ⟨gap, parts, more⟩

theorem Reads.elsewhere (reads : Reads p previous text tokens) (q : Position) :
    ∃ others, Reads q previous text others ∧ others.map Token.text = tokens.map Token.text := by
  induction reads generalizing q with
  | done => exact ⟨_, .done, rfl⟩
  | @skip _ _ piece _ _ stands apart skipped _ ih =>
    obtain ⟨others, reads, same⟩ := ih (q.after piece)
    exact ⟨others, .skip stands apart skipped reads, same⟩
  | @keep _ _ piece _ _ stands apart solid _ ih =>
    obtain ⟨others, reads, same⟩ := ih (q.after piece)
    exact ⟨_, .keep stands apart solid reads, by simp [same]⟩

theorem Piece.starts (stands : Piece previous rest piece)
    (starts : ∀ c ∈ other, Text.isWordChar c = false) : Piece other rest piece := by
  cases stands with
  | quoted inside => exact .quoted inside
  | number number ends => exact .number number ends
  | array array => exact .array array
  | mark mark => exact .mark mark
  | path path _ ends => exact .path path starts ends
  | comment marks single ends => exact .comment marks single ends
  | blanks some all ends => exact .blanks some all ends

-- What stands before only ever keeps a path from being read.
theorem Reads.starts (reads : Reads p previous text tokens)
    (starts : ∀ c ∈ other, Text.isWordChar c = false) : Reads p other text tokens := by
  cases reads with
  | done => exact .done
  | skip stands apart skipped more => exact .skip (stands.starts starts) apart skipped more
  | keep stands apart solid more => exact .keep (stands.starts starts) apart solid more

theorem Instead.heads {P : Char → Prop} (changed : Instead rest after)
    (ends : ∀ c ∈ rest.head?, P c) (quote : P '"') : ∀ c ∈ after.head?, P c := by
  rcases changed with same | ⟨same, _⟩
  · rwa [same]
  · rw [same]
    intro c first
    cases first
    exact quote

-- A quote ends every piece but a comment.
theorem Piece.ends (stands : Piece previous rest piece) (changed : Instead rest after) :
    Piece previous after piece := by
  cases stands with
  | quoted inside => exact .quoted inside
  | number number ends => exact .number number (changed.heads ends (by decide))
  | array array => exact .array array
  | mark mark => exact .mark mark
  | path path starts ends => exact .path path starts (changed.heads ends (by decide))
  | comment marks single ends =>
    refine .comment marks single ?_
    rcases changed with same | ⟨_, c, first, other⟩
    · rwa [same]
    · exact absurd (ends c first) other
  | blanks some all ends => exact .blanks some all (changed.heads ends (by decide))

theorem Instead.quoted (lexeme : Lexeme old) (gap inner : List Char) :
    Instead (gap ++ (old ++ after)) (gap ++ ('"' :: (inner ++ ['"']) ++ after)) := by
  cases gap with
  | cons c gap => exact .inl rfl
  | nil =>
    obtain ⟨c, tail, rfl⟩ := List.exists_cons_of_ne_nil lexeme.ne_nil
    refine .inr ⟨rfl, c, rfl, ?_⟩
    rintro rfl
    cases lexeme.solid

theorem Piece.replaced {gap inner : List Char} (lexeme : Lexeme old)
    (stands : Piece previous (gap ++ (old ++ after)) piece)
    (apart : ∀ c ∈ (gap ++ (old ++ after)).head?, Apart c) :
    Piece previous (gap ++ ('"' :: (inner ++ ['"']) ++ after)) piece ∧
      ∀ c ∈ (gap ++ ('"' :: (inner ++ ['"']) ++ after)).head?, Apart c := by
  have changed : Instead (gap ++ (old ++ after)) (gap ++ ('"' :: (inner ++ ['"']) ++ after)) :=
    .quoted lexeme gap inner
  exact ⟨stands.ends changed, changed.heads apart ⟨by decide, by decide, by decide⟩⟩

-- A quoted text in place of a token leaves the tokens before it as they are, and those behind it
-- are read with the same texts.
theorem Reads.replaced {inner : List Char} {front back : List Token} (inside : Inside inner)
    (lexeme : Lexeme old)
    (reads : Reads p previous (before ++ (old ++ after))
      (front ++ ⟨String.ofList old, p.after before⟩ :: back)) :
    ∃ later, Reads p previous (before ++ ('"' :: (inner ++ ['"']) ++ after))
        (front ++ ⟨String.ofList ('"' :: (inner ++ ['"'])), p.after before⟩ :: later) ∧
      later.map Token.text = back.map Token.text := by
  generalize whole : before ++ (old ++ after) = text at reads
  generalize read : front ++ ⟨String.ofList old, p.after before⟩ :: back = tokens at reads
  induction reads generalizing before front with
  | done =>
    have nonempty := lexeme.ne_nil
    obtain ⟨_, none⟩ := List.append_eq_nil_iff.mp whole
    exact absurd (List.append_eq_nil_iff.mp none).1 nonempty
  | @skip p previous piece rest tokens stands apart skipped more ih =>
    have member : ⟨String.ofList old, p.after before⟩ ∈ tokens := by simp [← read]
    obtain ⟨gap, rfl, rfl⟩ := more.behind member rfl whole
    rw [Position.after_append] at read ⊢
    obtain ⟨later, reads, same⟩ := ih rfl read
    obtain ⟨stands, apart⟩ := stands.replaced lexeme apart
    rw [List.append_assoc]
    exact ⟨later, .skip stands apart skipped reads, same⟩
  | @keep p previous piece rest tokens stands apart solid more ih =>
    rcases place_cons read with ⟨rfl, first, rfl⟩ | ⟨middle, rfl, next⟩
    · -- The token stands here.
      obtain ⟨text, position⟩ := Token.mk.inj first
      cases String.ofList_injective text
      have none : p.after ([] ++ before) = p.after [] := position
      cases Position.after_inj none
      obtain rfl : after = rest := List.append_cancel_left whole
      have last : ('"' :: (inner ++ ['"'])).getLast? = some '"' := by
        rw [← List.cons_append, List.getLast?_concat]
      have quote : ∀ c ∈ ('"' :: (inner ++ ['"'])).getLast?, Text.isWordChar c = false := by
        rw [last]
        simp only [Option.mem_def, Option.some.injEq, forall_eq']
        decide
      obtain ⟨later, reads, same⟩ := more.elsewhere (p.after ('"' :: (inner ++ ['"'])))
      exact ⟨later, .keep (.quoted inside) apart rfl (reads.starts quote), same⟩
    · have member : ⟨String.ofList old, p.after before⟩ ∈ tokens := by simp [← next]
      obtain ⟨gap, rfl, rfl⟩ := more.behind member rfl whole
      rw [Position.after_append] at next ⊢
      obtain ⟨later, reads, same⟩ := ih rfl next
      obtain ⟨stands, apart⟩ := stands.replaced lexeme apart
      rw [List.append_assoc]
      exact ⟨later, .keep stands apart solid reads, same⟩

-- What is read is a file as a whole: no token but the last is empty.
theorem parseNodes_reads {body : List Token} {last : Token} {nodes : List Node}
    (reads : Reads p previous text (body ++ [last])) :
    parseNodes (body ++ [last]) = .ok nodes ↔ Spells body nodes := by
  obtain ⟨texts, same, lexemes⟩ := reads.lexemes
  rw [List.map_append] at same
  obtain ⟨rfl, ended⟩ := List.append_inj' same rfl
  have solid : ∀ t ∈ body, t.text ≠ "" := by
    intro t member none
    have lexeme := lexemes _ (List.mem_map_of_mem member)
    rw [none] at lexeme
    exact lexeme.ne_nil rfl
  rw [parseNodes_ok_exact]
  constructor
  · rintro ⟨front, stop, rest, parts, none, _, spells⟩
    rcases List.eq_nil_or_concat rest with rfl | ⟨others, final, rfl⟩
    · obtain ⟨rfl, _⟩ := List.append_inj' parts rfl
      exact spells
    · rw [List.concat_eq_append, ← List.cons_append, ← List.append_assoc] at parts
      obtain ⟨rfl, _⟩ := List.append_inj' parts rfl
      exact absurd none (solid stop (by simp))
  · intro spells
    exact ⟨body, last, [], rfl, by simpa using ended, solid, spells⟩

end

theorem literal_line (s : String) : Line (literal s).toList (s.toList.flatMap literalChar) := by
  rw [literal, String.toList_ofList]
  exact .mk (literalChar_escapes.single _)

theorem literal_around {s : String} {front back : List Token} {p : Position} {nodes : List Node} :
    Spells (front ++ ⟨literal s, p⟩ :: back) nodes ↔
      ∃ tree, Around front back tree ∧ nodes = tree s := by
  have line : Line (Token.mk (literal s) p).text.toList (s.toList.flatMap literalChar) :=
    literal_line s
  rw [spells_around line, literalChar_escapes.back, String.ofList_toList]

theorem Position.start_after (text : List Char) :
    (⟨1, 1⟩ : Position).after text = .behind text := by
  have begins : ⟨1, 1⟩ = Position.behind [] := by decide
  rw [begins, behind_after, List.nil_append]

-- A string in quotes is one token wherever a token may stand, and it is read exactly where a value
-- or a name may stand, as the string that it was.
theorem tokenize_literal (s : String) {before old after : String} {front back : List Token}
    {last : Token} (read : tokenize (before ++ (old ++ after)) =
      .ok (front ++ ⟨old, .behind before.toList⟩ :: (back ++ [last]))) :
    ∃ later close,
      tokenize (before ++ (literal s ++ after)) =
        .ok (front ++ ⟨literal s, .behind before.toList⟩ :: (later ++ [close])) ∧
      later.map Token.text = back.map Token.text ∧
      ∀ nodes, (∃ parsed, parseNodes
          (front ++ ⟨literal s, .behind before.toList⟩ :: (later ++ [close])) = .ok parsed ∧
          unplacedAll parsed = nodes) ↔
        ∃ tree, Around front back tree ∧ nodes = unplacedAll (tree s) := by
  have reads : Reads ⟨1, 1⟩ none (before.toList ++ (old.toList ++ after.toList))
      (front ++ ⟨String.ofList old.toList, (⟨1, 1⟩ : Position).after before.toList⟩ ::
        (back ++ [last])) := by
    rw [Position.start_after, String.ofList_toList, ← String.toList_append, ← String.toList_append]
    exact scan_reads.mp read
  have lexeme : Lexeme old.toList := by
    obtain ⟨texts, same, lexemes⟩ := reads.lexemes
    rw [← List.cons_append, ← List.append_assoc, List.map_append] at same
    obtain ⟨rfl, _⟩ := List.append_inj' same rfl
    exact lexemes old (by simp)
  obtain ⟨others, again, same⟩ : ∃ others,
      Reads ⟨1, 1⟩ none (before.toList ++ ((literal s).toList ++ after.toList))
        (front ++ ⟨literal s, .behind before.toList⟩ :: others) ∧
      others.map Token.text = (back ++ [last]).map Token.text := by
    rw [literal, String.toList_ofList, ← Position.start_after]
    exact reads.replaced (literalChar_escapes.inside s.toList) lexeme
  rw [List.map_append] at same
  obtain ⟨later, final, rfl, texts, ends⟩ := List.map_eq_append_iff.mp same
  obtain ⟨close, _, rfl, _, none⟩ := List.map_eq_cons_iff.mp ends
  cases List.map_eq_nil_iff.mp none
  have alike (one other : List Token) (same : one.map Token.text = other.map Token.text) :
      (front ++ ⟨literal s, .behind before.toList⟩ :: one).map Token.text =
        (front ++ ⟨literal s, .behind before.toList⟩ :: other).map Token.text := by
    simp [same]
  refine ⟨later, close, ?_, texts, fun nodes => ?_⟩
  · rw [tokenize, String.toList_append, String.toList_append]
    exact scan_reads.mpr again
  · have parts : front ++ ⟨literal s, .behind before.toList⟩ :: (later ++ [close]) =
        (front ++ ⟨literal s, .behind before.toList⟩ :: later) ++ [close] := by
      rw [List.append_assoc, List.cons_append]
    rw [parts] at again ⊢
    constructor
    · rintro ⟨parsed, accepted, rfl⟩
      have spells := (parseNodes_reads again).mp accepted
      obtain ⟨others, spells, equal⟩ := spells.alike (alike back later texts.symm)
      obtain ⟨tree, around, rfl⟩ := literal_around.mp spells
      exact ⟨tree, around, equal.symm⟩
    · rintro ⟨tree, around, rfl⟩
      have spells : Spells (front ++ ⟨literal s, .behind before.toList⟩ :: back) (tree s) :=
        literal_around.mpr ⟨tree, around, rfl⟩
      obtain ⟨parsed, spells, equal⟩ := spells.alike (alike later back texts)
      exact ⟨parsed, (parseNodes_reads again).mpr spells, equal⟩

theorem tokenize_literal_limit :
    tokenize ("limit = [" ++ ("1" ++ "];")) =
      .ok ([⟨"limit", ⟨1, 1⟩⟩, ⟨"=", ⟨1, 7⟩⟩, ⟨"[", ⟨1, 9⟩⟩] ++
        ⟨"1", .behind "limit = [".toList⟩ ::
          ([⟨"]", ⟨1, 11⟩⟩, ⟨";", ⟨1, 12⟩⟩] ++ [⟨"", ⟨1, 13⟩⟩])) ∧
    ∃ later close parsed,
      tokenize ("limit = [" ++ (literal "\"é\\ // #\n\t" ++ "];")) =
        .ok ([⟨"limit", ⟨1, 1⟩⟩, ⟨"=", ⟨1, 7⟩⟩, ⟨"[", ⟨1, 9⟩⟩] ++
          ⟨literal "\"é\\ // #\n\t", .behind "limit = [".toList⟩ :: (later ++ [close])) ∧
      parseNodes ([⟨"limit", ⟨1, 1⟩⟩, ⟨"=", ⟨1, 7⟩⟩, ⟨"[", ⟨1, 9⟩⟩] ++
        ⟨literal "\"é\\ // #\n\t", .behind "limit = [".toList⟩ :: (later ++ [close])) =
          .ok parsed ∧
      unplacedAll parsed = [⟨"limit", none, .list [.quoted "\"é\\ // #\n\t"], ⟨0, 0⟩⟩] := by
  have read : tokenize ("limit = [" ++ ("1" ++ "];")) =
      .ok ([⟨"limit", ⟨1, 1⟩⟩, ⟨"=", ⟨1, 7⟩⟩, ⟨"[", ⟨1, 9⟩⟩] ++
        ⟨"1", .behind "limit = [".toList⟩ ::
          ([⟨"]", ⟨1, 11⟩⟩, ⟨";", ⟨1, 12⟩⟩] ++ [⟨"", ⟨1, 13⟩⟩])) := by
    decide +kernel
  have path : Path "limit".toList := isPath_exact.mp (by decide)
  have inside : ValueAround [⟨"[", ⟨1, 9⟩⟩] [⟨"]", ⟨1, 11⟩⟩] fun s => .list [s] :=
    .list rfl (.last rfl)
  have around : Around [⟨"limit", ⟨1, 1⟩⟩, ⟨"=", ⟨1, 7⟩⟩, ⟨"[", ⟨1, 9⟩⟩]
      [⟨"]", ⟨1, 11⟩⟩, ⟨";", ⟨1, 12⟩⟩] fun s => [⟨"limit", none, .list [.quoted s], ⟨1, 1⟩⟩] :=
    .value (.bare path) rfl inside rfl .nil
  obtain ⟨later, close, scanned, _, back⟩ := tokenize_literal "\"é\\ // #\n\t" read
  obtain ⟨parsed, accepted, same⟩ := (back _).mpr ⟨_, around, rfl⟩
  exact ⟨read, later, close, parsed, scanned, accepted, same⟩

end WireSchema.Source
