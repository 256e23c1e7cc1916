import WireSchema.Proofs.Source.Grammar

namespace WireSchema.Source

-- The well-formed trees are exactly those that some tokens spell; names and texts may hold
-- anything, since they can be quoted.

def escapeChar : Char → List Char
  | '\n' => ['\\', 'n']
  | '\t' => ['\\', 't']
  | '\\' => ['\\', '\\']
  | '"' => ['\\', '"']
  | c => [c]

def escape (text : List Char) : List Char :=
  text.flatMap escapeChar

def quote (text : String) : String :=
  String.ofList ('"' :: (escape text.toList ++ ['"']))

def renderName (name : String) : String :=
  if isPath name.toList then name else quote name

def Scalar.render : Scalar → String
  | .quoted text => quote text
  | .number text => text
  | .name text => text
  | .arrayOf element => String.ofList ("array<".toList ++ element.toList ++ ['>'])

-- All tokens of a node stand where its key does.
def renderItems (p : Position) : List Scalar → List Token
  | [] => [⟨"]", p⟩]
  | [s] => [⟨s.render, p⟩, ⟨"]", p⟩]
  | s :: rest => ⟨s.render, p⟩ :: ⟨",", p⟩ :: renderItems p rest

mutual

def Node.render : Node → List Token
  | ⟨key, name, content, p⟩ =>
    ⟨key, p⟩ :: (name.toList.map fun name => ⟨renderName name, p⟩) ++ Content.render p content

def Content.render (p : Position) : Content Node → List Token
  | .scalar s => [⟨"=", p⟩, ⟨s.render, p⟩, ⟨";", p⟩]
  | .list items => ⟨"=", p⟩ :: ⟨"[", p⟩ :: (renderItems p items ++ [⟨";", p⟩])
  | .block children => ⟨"\x7b", p⟩ :: (renderAll children ++ [⟨"\x7d", p⟩])
  | .flag => [⟨";", p⟩]

def renderAll : List Node → List Token
  | [] => []
  | node :: rest => node.render ++ renderAll rest

end

def Scalar.WellFormed : Scalar → Prop
  | .quoted _ => True
  | .number text => Number text.toList
  | .name text => Path text.toList
  | .arrayOf element => Word element.toList

mutual

def Node.WellFormed : Node → Prop
  | ⟨key, _, content, _⟩ => Path key.toList ∧ Content.WellFormed content

def Content.WellFormed : Content Node → Prop
  | .scalar s => s.WellFormed
  | .list items => ∀ s ∈ items, s.WellFormed
  | .block children => AllWellFormed children
  | .flag => True

def AllWellFormed : List Node → Prop
  | [] => True
  | node :: rest => node.WellFormed ∧ AllWellFormed rest

end

def Escapes (written : Char → List Char) : Prop :=
  ∀ c, (written c = [c] ∧ c ≠ '"' ∧ c ≠ '\\' ∧ c ≠ '\n') ∨ ∃ d, written c = ['\\', d] ∧ d ≠ '\n' ∧
    ∀ rest, unescape ('\\' :: d :: rest) = c :: unescape rest

theorem escapeChar_escapes : Escapes escapeChar := by
  intro c
  unfold escapeChar
  split
  · exact .inr ⟨'n', rfl, by decide, fun _ => rfl⟩
  · exact .inr ⟨'t', rfl, by decide, fun _ => rfl⟩
  · exact .inr ⟨'\\', rfl, by decide, fun _ => rfl⟩
  · exact .inr ⟨'"', rfl, by decide, fun _ => rfl⟩
  · rename_i line _ backslash quote
    exact .inl ⟨rfl, quote, backslash, line⟩

theorem unescape_plain {c : Char} {rest : List Char} (plain : c ≠ '\\') :
    unescape (c :: rest) = c :: unescape rest := by
  rw [unescape]
  all_goals
    intros
    contradiction

theorem Escapes.back {written : Char → List Char} (escapes : Escapes written) (text : List Char) :
    unescape (text.flatMap written) = text := by
  induction text with
  | nil => rfl
  | cons c rest ih =>
    rw [List.flatMap_cons]
    rcases escapes c with ⟨same, _, plain, _⟩ | ⟨d, escaped, _, back⟩
    · rw [same, List.singleton_append, unescape_plain plain, ih]
    · rw [escaped]
      exact (back _).trans (congrArg (c :: ·) ih)

theorem Escapes.single {written : Char → List Char} (escapes : Escapes written)
    (text : List Char) : '\n' ∉ text.flatMap written := by
  intro member
  obtain ⟨c, _, inside⟩ := List.mem_flatMap.mp member
  rcases escapes c with ⟨same, _, _, line⟩ | ⟨d, escaped, line, _⟩
  · rw [same, List.mem_singleton] at inside
    exact line inside.symm
  · simp only [escaped, List.mem_cons, List.not_mem_nil, or_false] at inside
    rcases inside with backslash | same
    · exact absurd backslash (by decide)
    · exact line same.symm

theorem quote_line (text : String) : Line (quote text).toList (escape text.toList) := by
  rw [quote, String.toList_ofList]
  exact .mk (escapeChar_escapes.single _)

theorem unescape_quote (text : String) :
    String.ofList (unescape (escape text.toList)) = text := by
  rw [escape, escapeChar_escapes.back, String.ofList_toList]

theorem renderName_names (name : String) : Names (renderName name) name := by
  unfold renderName
  split
  · rename_i accepted
    exact .bare (isPath_exact.mp accepted)
  · have quoted := Names.quoted (quote_line name)
    rwa [unescape_quote] at quoted

theorem Scalar.render_denotes {s : Scalar} (wellFormed : s.WellFormed) : Denotes s.render s := by
  cases s with
  | quoted text =>
    have quoted := Denotes.quoted (quote_line text)
    rwa [unescape_quote] at quoted
  | number text => exact .number wellFormed
  | name text => exact .name wellFormed
  | arrayOf element =>
    have text : (Scalar.arrayOf element).render.toList =
        "array<".toList ++ element.toList ++ ['>'] := String.toList_ofList
    have array : ArrayType (Scalar.arrayOf element).render.toList element.toList := by
      rw [text]
      exact .mk wellFormed
    have denotes := Denotes.arrayOf array
    rwa [String.ofList_toList] at denotes

theorem renderItems_items {p : Position} {items : List Scalar} (some : items ≠ [])
    (each : ∀ s ∈ items, s.WellFormed) : Items (renderItems p items) items := by
  fun_induction renderItems p items with
  | case1 => exact absurd rfl some
  | case2 s =>
    have denotes := Scalar.render_denotes (each s (List.mem_cons_self ..))
    exact .last denotes rfl
  | case3 s rest more ih =>
    have denotes := Scalar.render_denotes (each s (List.mem_cons_self ..))
    refine .more denotes rfl ?_
    exact ih (by simpa using more) fun s member => each s (List.mem_cons_of_mem _ member)

theorem renderHeading {key : String} {p : Position} (name : Option String)
    (path : Path key.toList) :
    Heading (⟨key, p⟩ :: (name.toList.map fun name => ⟨renderName name, p⟩)) ⟨key, p⟩ name := by
  cases name with
  | none => exact .bare path
  | some name => exact .named path (renderName_names name)

mutual

theorem Node.render_spells : (node : Node) → node.WellFormed → Spells node.render [node]
  | ⟨_, name, content, _⟩, ⟨path, wellFormed⟩ =>
    Content.render_spells content wellFormed (renderHeading name path)

theorem Content.render_spells : (content : Content Node) → content.WellFormed →
    ∀ {heading : List Token} {key : Token} {name : Option String}, Heading heading key name →
    Spells (heading ++ content.render key.position) [⟨key.text, name, content, key.position⟩]
  | .scalar s, wellFormed, _, key, _, heads => by
    have value : Value [⟨s.render, key.position⟩] (.scalar s) :=
      .scalar (Scalar.render_denotes wellFormed)
    have tells : Plain (Content.render key.position (.scalar s)) (.scalar s) := .value rfl value rfl
    simpa using Spells.plain heads tells .nil
  | .list items, wellFormed, _, key, _, heads => by
    have value : Value (⟨"[", key.position⟩ :: renderItems key.position items) (.list items) := by
      cases items with
      | nil => exact .empty rfl rfl
      | cons s rest => exact .list rfl (renderItems_items (by simp) wellFormed)
    have tells : Plain (Content.render key.position (.list items)) (.list items) :=
      .value rfl value rfl
    simpa using Spells.plain heads tells .nil
  | .block children, wellFormed, _, _, _, heads =>
    .block heads rfl (renderAll_spells children wellFormed) rfl .nil
  | .flag, _, _, _, _, heads => by
    simpa [Content.render] using Spells.plain heads (.flag rfl) .nil

theorem renderAll_spells : (nodes : List Node) → AllWellFormed nodes → Spells (renderAll nodes) nodes
  | [], _ => .nil
  | node :: rest, ⟨first, others⟩ => (Node.render_spells node first).cons (renderAll_spells rest others)

end

theorem Denotes.wellFormed {text : String} {s : Scalar} (denotes : Denotes text s) :
    s.WellFormed := by
  cases denotes with
  | quoted line => trivial
  | number number => exact number
  | name path => exact path
  | arrayOf array =>
    rw [Scalar.WellFormed, String.toList_ofList]
    exact array.named

theorem Items.wellFormed {used : List Token} {items : List Scalar} (inside : Items used items) :
    ∀ s ∈ items, s.WellFormed := by
  induction inside with
  | last denotes _ =>
    intro s member
    cases List.mem_singleton.mp member
    exact denotes.wellFormed
  | more denotes _ _ ih =>
    intro s member
    rcases List.mem_cons.mp member with rfl | later
    · exact denotes.wellFormed
    · exact ih s later

theorem Plain.wellFormed {used : List Token} {content : Content Node}
    (tells : Plain used content) : content.WellFormed := by
  cases tells with
  | value _ inside _ =>
    cases inside with
    | scalar denotes => exact denotes.wellFormed
    | empty _ _ => exact fun s member => absurd member List.not_mem_nil
    | list _ inside => exact inside.wellFormed
  | flag _ => trivial

theorem Spells.wellFormed {used : List Token} {nodes : List Node} (spells : Spells used nodes) :
    AllWellFormed nodes := by
  induction spells with
  | nil => trivial
  | plain heads tells _ ih =>
    obtain ⟨_, _, path⟩ := heads.start
    exact ⟨⟨path, tells.wellFormed⟩, ih⟩
  | block heads _ _ _ _ children later =>
    obtain ⟨_, _, path⟩ := heads.start
    exact ⟨⟨path, children⟩, later⟩

theorem spelled_exact {nodes : List Node} : AllWellFormed nodes ↔ ∃ used, Spells used nodes :=
  ⟨fun wellFormed => ⟨_, renderAll_spells nodes wellFormed⟩, fun ⟨_, spells⟩ => spells.wellFormed⟩

end WireSchema.Source
