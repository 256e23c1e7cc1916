import WireSchema.Proofs.Source.Rendering

namespace WireSchema.Source

-- Reading always comes to an end by itself and accepts exactly what the grammar spells in front of
-- the first empty token.

section

variable {ts after : Tokens} {used : List Token} {fuel : Nat} {node : Node} {nodes : List Node}

theorem moves_over {last : Token} (used rest : List Token) :
    Tokens.Moves ⟨used ++ rest, last⟩ used ⟨rest, last⟩ := by
  induction used with
  | nil => rfl
  | cons t used ih => exact ⟨rfl, ih⟩

theorem advance_length : ts.advance.ahead.length = ts.ahead.length - 1 := by
  simp [Tokens.advance]

theorem Tokens.Moves.length (moved : ts.Moves used after) :
    after.ahead.length = ts.ahead.length - used.length := by
  induction used generalizing ts with
  | nil =>
    cases moved
    simp
  | cons t used ih =>
    rw [ih moved.2, advance_length, List.length_cons]
    omega

theorem Tokens.Moves.ahead (moved : ts.Moves used after) : after.last = ts.last ∧
    (ts.ahead = used ++ after.ahead ∨ after.ahead = [] ∧ ts.ahead <+: used) := by
  induction used generalizing ts with
  | nil =>
    cases moved
    exact ⟨rfl, .inl rfl⟩
  | cons t used ih =>
    obtain ⟨here, moved⟩ := moved
    obtain ⟨same, parts⟩ := ih moved
    refine ⟨same, ?_⟩
    obtain ⟨ahead, last⟩ := ts
    cases ahead with
    | nil =>
      refine .inr ⟨?_, List.nil_prefix⟩
      rcases parts with none | ⟨none, _⟩
      · exact (List.append_eq_nil_iff.mp none.symm).2
      · exact none
    | cons x rest =>
      cases here
      rcases parts with inside | ⟨none, passed⟩
      · exact .inl (congrArg (x :: ·) inside)
      · exact .inr ⟨none, List.cons_prefix_cons.mpr ⟨rfl, passed⟩⟩

theorem advance_behind (behind : ts.ahead = []) : ts.advance = ts := by
  cases ts
  cases behind
  rfl

theorem Tokens.Moves.behind (moved : ts.Moves used after) (behind : ts.ahead = []) :
    after = ts ∧ ∀ t ∈ used, t = ts.peek := by
  induction used with
  | nil => exact ⟨moved.symm, by simp⟩
  | cons t used ih =>
    obtain ⟨here, moved⟩ := moved
    rw [advance_behind behind] at moved
    obtain ⟨same, all⟩ := ih moved
    refine ⟨same, ?_⟩
    intro x member
    rcases List.mem_cons.mp member with rfl | later
    · exact here.symm
    · exact all x later

theorem Spells.closing (spells : Spells used [node]) : ∃ t ∈ used, ¬Path t.text.toList := by
  have other {t : Token} {text : String} (same : t.text = text)
      (refused : isPath text.toList = false) : ¬Path t.text.toList := by
    intro path
    rw [same, ← isPath_exact, refused] at path
    cases path
  cases spells with
  | plain _ tells _ =>
    cases tells with
    | @value _ semicolon _ _ _ _ ends => exact ⟨semicolon, by simp, other ends (by decide)⟩
    | @flag semicolon ends => exact ⟨semicolon, by simp, other ends (by decide)⟩
  | @block _ _ _ _ _ close _ _ _ _ _ _ closes _ =>
    exact ⟨close, by simp, other closes (by decide)⟩

theorem parseNode_ahead (parsed : parseNode fuel ts = .ok (node, after)) : ts.ahead ≠ [] := by
  intro behind
  obtain ⟨used, moved, spells⟩ := (parse_sound fuel).1 _ _ _ parsed
  obtain ⟨_, all⟩ := moved.behind behind
  obtain ⟨t, rest, rfl, path⟩ := spells.start
  obtain ⟨other, member, none⟩ := spells.closing
  rw [all other member, ← all t (List.mem_cons_self ..)] at none
  exact none path

theorem parseNode_shorter (parsed : parseNode fuel ts = .ok (node, after)) :
    after.ahead.length < ts.ahead.length := by
  have some := List.length_pos_iff.mpr (parseNode_ahead parsed)
  obtain ⟨used, moved, spells⟩ := (parse_sound fuel).1 _ _ _ parsed
  obtain ⟨t, rest, rfl, _⟩ := spells.start
  have length := moved.length
  simp only [List.length_cons] at length
  omega

theorem parseItems_fuel (enough : 2 * ts.ahead.length < fuel) :
    parseItems (fuel + 1) ts = parseItems fuel ts := by
  induction fuel generalizing ts with
  | zero => simp at enough
  | succ fuel ih =>
    rw [parseItems, parseItems]
    cases item : parseScalar ts with
    | error e => rfl
    | ok found =>
      obtain ⟨s, next⟩ := found
      obtain ⟨denotes, rfl⟩ := parseScalar_exact.mp item
      by_cases separates : ts.advance.starts "," = true
      · have ahead : ts.ahead ≠ [] := by
          intro behind
          rw [advance_behind behind] at separates
          exact (denotes_ne denotes).2.2.2 (starts_exact.mp separates)
        have some := List.length_pos_iff.mpr ahead
        have same : parseItems (fuel + 1) ts.advance.advance = parseItems fuel ts.advance.advance := by
          refine ih ?_
          rw [advance_length, advance_length]
          omega
        simp [bind, Except.bind, same]
      · simp [bind, Except.bind, separates]

theorem parsePlain_fuel (enough : 2 * ts.ahead.length < fuel) :
    parsePlain (ν := Node) (fuel + 1) ts = parsePlain fuel ts := by
  have short : 2 * ts.advance.advance.ahead.length < fuel := by
    rw [advance_length, advance_length]
    omega
  simp only [parsePlain, parseValue, parseItems_fuel short]

-- Every node takes tokens from those ahead, so two steps for each are enough: one to the node and
-- one to the block that it stands in.
theorem parse_fuel (fuel : Nat) :
    (∀ ts : Tokens, 2 * ts.ahead.length + 1 < fuel → parseNode (fuel + 1) ts = parseNode fuel ts) ∧
    ∀ ts : Tokens, 2 * ts.ahead.length + 2 < fuel →
      parseBlock (fuel + 1) ts = parseBlock fuel ts := by
  induction fuel with
  | zero => exact ⟨fun _ enough => by simp at enough, fun _ enough => by simp at enough⟩
  | succ fuel ih =>
    obtain ⟨nodeFuel, blockFuel⟩ := ih
    constructor
    · intro ts enough
      rw [parseNode, parseNode]
      cases heading : parseHeading ts with
      | error e => rfl
      | ok found =>
        obtain ⟨key, name, middle⟩ := found
        obtain ⟨used, moved, heads⟩ := parseHeading_sound heading
        have shorter := moved.length
        have plain : parsePlain (ν := Node) (fuel + 1) middle = parsePlain fuel middle :=
          parsePlain_fuel (by omega)
        by_cases opens : middle.starts "\x7b" = true
        · have ahead : ts.ahead ≠ [] := by
            intro behind
            obtain ⟨rfl, all⟩ := moved.behind behind
            obtain ⟨rest, rfl, path⟩ := heads.start
            rw [all key (List.mem_cons_self ..), starts_exact.mp opens, ← isPath_exact] at path
            exact absurd path (by decide)
          have some := List.length_pos_iff.mpr ahead
          have block : parseBlock (fuel + 1) middle.advance = parseBlock fuel middle.advance := by
            refine blockFuel _ ?_
            rw [advance_length]
            omega
          simp [bind, Except.bind, opens, block]
        · simp [bind, Except.bind, opens, plain]
    · intro ts enough
      rw [parseBlock, parseBlock, nodeFuel ts (by omega)]
      cases first : parseNode fuel ts with
      | error e => rfl
      | ok found =>
        obtain ⟨node, middle⟩ := found
        have shorter := parseNode_shorter first
        simp only [bind, Except.bind, blockFuel middle (by omega)]

theorem parseFile_fuel (enough : 2 * ts.ahead.length + 2 < fuel) :
    parseFile (fuel + 1) ts = parseFile fuel ts := by
  induction fuel generalizing ts with
  | zero => simp at enough
  | succ fuel ih =>
    rw [parseFile, parseFile, (parse_fuel fuel).1 ts (by omega)]
    cases first : parseNode fuel ts with
    | error e => rfl
    | ok found =>
      obtain ⟨node, middle⟩ := found
      have shorter := parseNode_shorter first
      have same : parseFile (fuel + 1) middle = parseFile fuel middle := ih (by omega)
      simp only [bind, Except.bind, same]

theorem names_ne {text name : String} (names : Names text name) : text ≠ "" := by
  have known := nodeName?_exact.mpr names
  rintro rfl
  cases known

theorem Heading.texts {key : Token} {name : Option String} (heads : Heading used key name) :
    ∀ t ∈ used, t.text ≠ "" := by
  cases heads with
  | bare path => simpa using (path_ne path).1
  | named path names => simpa using ⟨(path_ne path).1, names_ne names⟩

theorem Items.texts {items : List Scalar} (inside : Items used items) :
    ∀ t ∈ used, t.text ≠ "" := by
  induction inside with
  | last denotes closes => simpa [closes] using (denotes_ne denotes).1
  | more denotes separates _ ih => simpa [separates] using ⟨(denotes_ne denotes).1, ih⟩

theorem Plain.texts {content : Content Node} (tells : Plain used content) :
    ∀ t ∈ used, t.text ≠ "" := by
  cases tells with
  | flag ends => simp [ends]
  | value assigns inside ends =>
    cases inside with
    | scalar denotes => simpa [assigns, ends] using (denotes_ne denotes).1
    | empty opens closes => simp [assigns, opens, closes, ends]
    | list opens inside =>
      simp only [List.mem_cons, List.mem_append, List.not_mem_nil, or_false]
      rintro t (rfl | (rfl | member) | rfl)
      · simp [assigns]
      · simp [opens]
      · exact inside.texts t member
      · simp [ends]

theorem Spells.texts (spells : Spells used nodes) : ∀ t ∈ used, t.text ≠ "" := by
  induction spells with
  | nil => simp
  | plain heads tells _ ih =>
    intro t member
    simp only [List.mem_append] at member
    rcases member with heading | tail | rest
    · exact heads.texts t heading
    · exact tells.texts t tail
    · exact ih t rest
  | block heads opens _ closes _ children later =>
    intro t member
    simp only [List.mem_append, List.mem_cons] at member
    rcases member with heading | rfl | body | rfl | rest
    · exact heads.texts t heading
    · simp [opens]
    · exact children t body
    · simp [closes]
    · exact later t rest

end

section

variable {tokens : List Token} {nodes : List Node}

theorem parseNodes_ok_exact : parseNodes tokens = .ok nodes ↔
    ∃ body stop rest, tokens = body ++ stop :: rest ∧ stop.text = "" ∧
      (∀ t ∈ body, t.text ≠ "") ∧ Spells body nodes := by
  unfold parseNodes
  cases final : tokens.getLast? with
  | none =>
    cases List.getLast?_eq_none_iff.mp final
    simp
  | some last =>
    constructor
    · intro parsed
      obtain ⟨used, after, moved, ended, spells⟩ := parseFile_sound parsed
      have texts := spells.texts
      obtain ⟨same, parts⟩ := moved.ahead
      cases ahead : after.ahead with
      | nil =>
        -- All tokens were read, the last one too, which is no empty one.
        have read : last ∈ used := by
          have member := List.mem_of_getLast? final
          rcases parts with inside | ⟨_, passed⟩
          · have all : tokens = used := by simpa [ahead] using inside
            exact all ▸ member
          · exact passed.subset member
        have none : last.text = "" := by
          simpa [Tokens.peek, ahead, same] using ended
        exact absurd none (texts last read)
      | cons stop rest =>
        have none : stop.text = "" := by
          simpa [Tokens.peek, ahead] using ended
        rcases parts with inside | ⟨empty, _⟩
        · exact ⟨used, stop, rest, by rw [← ahead]; exact inside, none, texts, spells⟩
        · cases ahead.symm.trans empty
    · rintro ⟨body, stop, rest, rfl, ended, _, spells⟩
      refine parseFile_complete spells (moves_over body (stop :: rest)) ended ?_
      simp only [List.length_append, List.length_cons]
      omega

theorem parseFile_settled {ts : Tokens} {fuel more : Nat}
    (enough : 2 * ts.ahead.length + 2 < fuel) (further : fuel ≤ more) :
    parseFile more ts = parseFile fuel ts := by
  induction more, further using Nat.le_induction with
  | base => rfl
  | succ more further ih => rw [parseFile_fuel (by omega), ih]

-- More fuel changes nothing, so reading ends by itself. It comes to the one tree that the tokens in
-- front of the first empty one spell, and to no tree where they spell none. Trees that are written
-- down are read back.
theorem parseNodes_exact (tokens : List Token) :
    (∀ last, tokens.getLast? = some last → ∀ fuel, 2 * tokens.length + 4 ≤ fuel →
      parseFile fuel ⟨tokens, last⟩ = parseNodes tokens) ∧
    (∀ nodes, parseNodes tokens = .ok nodes ↔
      ∃ body stop rest, tokens = body ++ stop :: rest ∧ stop.text = "" ∧
        (∀ t ∈ body, t.text ≠ "") ∧ Spells body nodes) ∧
    (∀ body nodes other, Spells body nodes → Spells body other → nodes = other) ∧
    ∀ nodes, AllWellFormed nodes → ∀ stop rest, stop.text = "" →
      parseNodes (renderAll nodes ++ stop :: rest) = .ok nodes := by
  have accepted {body : List Token} {nodes : List Node} (spells : Spells body nodes)
      {stop : Token} (ended : stop.text = "") (rest : List Token) :
      parseNodes (body ++ stop :: rest) = .ok nodes :=
    parseNodes_ok_exact.mpr ⟨body, stop, rest, rfl, ended, spells.texts, spells⟩
  refine ⟨?_, fun nodes => parseNodes_ok_exact, ?_, ?_⟩
  · intro last final fuel enough
    simp only [parseNodes, final]
    exact parseFile_settled (by simp) enough
  · intro body nodes other spells again
    let stop : Token := ⟨"", ⟨0, 0⟩⟩
    have first : parseNodes (body ++ [stop]) = .ok nodes := accepted spells rfl []
    have second : parseNodes (body ++ [stop]) = .ok other := accepted again rfl []
    exact Except.ok.inj (first.symm.trans second)
  · intro nodes wellFormed stop rest ended
    exact accepted (renderAll_spells nodes wellFormed) ended rest

end

-- A block with every kind of content. Its name is no path, and a text in it holds a line end, a
-- quote and a backslash.
def portParameter : Node :=
  ⟨"server_parameter", some "net.port", .block [
      ⟨"set_at", none, .list [.name "startup", .quoted "a \"b\"\n\\"], ⟨2, 3⟩⟩,
      ⟨"limit", none, .scalar (.number "-1.5"), ⟨3, 3⟩⟩,
      ⟨"field", some "ports", .scalar (.arrayOf "int"), ⟨4, 3⟩⟩,
      ⟨"sources", none, .list [], ⟨5, 3⟩⟩,
      ⟨"rust::hidden", none, .flag, ⟨6, 3⟩⟩], ⟨1, 1⟩⟩

theorem portParameter_wellFormed : AllWellFormed [portParameter] := by
  have path {text : String} (accepted : isPath text.toList = true) : Path text.toList :=
    isPath_exact.mp accepted
  have listed : ∀ s ∈ [Scalar.name "startup", .quoted "a \"b\"\n\\"], s.WellFormed := by
    intro s member
    simp only [List.mem_cons, List.not_mem_nil, or_false] at member
    rcases member with rfl | rfl
    · exact path (by decide)
    · trivial
  have number : Number "-1.5".toList := isNumber_exact.mp (by decide)
  have word : Word "int".toList :=
    ⟨⟨'i', ['n', 't'], rfl, by decide⟩, List.all_eq_true.mp (by decide)⟩
  exact ⟨⟨path (by decide), ⟨path (by decide), listed⟩, ⟨path (by decide), number⟩,
    ⟨path (by decide), word⟩, ⟨path (by decide), fun _ member => absurd member List.not_mem_nil⟩,
    ⟨path (by decide), trivial⟩, trivial⟩, trivial⟩

theorem parseNodes_exact_port : AllWellFormed [portParameter] ∧
    parseNodes (renderAll [portParameter] ++ [⟨"", ⟨8, 1⟩⟩]) = .ok [portParameter] :=
  ⟨portParameter_wellFormed,
    (parseNodes_exact []).2.2.2 [portParameter] portParameter_wellFormed _ [] rfl⟩

end WireSchema.Source
