import WireSchema.Proofs.Outcome
import WireSchema.Proofs.Source.Lexeme

namespace WireSchema.Source

inductive Items : List Token → List Scalar → Prop where
  | last {item close : Token} {s : Scalar} (denotes : Denotes item.text s)
      (closes : close.text = "]") : Items [item, close] [s]
  | more {item comma : Token} {rest : List Token} {s : Scalar} {items : List Scalar}
      (denotes : Denotes item.text s) (separates : comma.text = ",") (others : Items rest items) :
      Items (item :: comma :: rest) (s :: items)

inductive Value : List Token → Content Node → Prop where
  | scalar {token : Token} {s : Scalar} (denotes : Denotes token.text s) : Value [token] (.scalar s)
  | empty {start close : Token} (opens : start.text = "[") (closes : close.text = "]") :
      Value [start, close] (.list [])
  | list {start : Token} {body : List Token} {items : List Scalar} (opens : start.text = "[")
      (inside : Items body items) : Value (start :: body) (.list items)

inductive Heading : List Token → Token → Option String → Prop where
  | bare {key : Token} (path : Path key.text.toList) : Heading [key] key none
  | named {key token : Token} {name : String} (path : Path key.text.toList)
      (names : Names token.text name) : Heading [key, token] key (some name)

inductive Plain : List Token → Content Node → Prop where
  | value {equals semicolon : Token} {body : List Token} {content : Content Node}
      (assigns : equals.text = "=") (inside : Value body content) (ends : semicolon.text = ";") :
      Plain (equals :: (body ++ [semicolon])) content
  | flag {semicolon : Token} (ends : semicolon.text = ";") : Plain [semicolon] .flag

inductive Spells : List Token → List Node → Prop where
  | nil : Spells [] []
  | plain {heading tail rest : List Token} {key : Token} {name : Option String}
      {content : Content Node} {nodes : List Node} (heads : Heading heading key name)
      (tells : Plain tail content) (others : Spells rest nodes) :
      Spells (heading ++ (tail ++ rest)) (⟨key.text, name, content, key.position⟩ :: nodes)
  | block {heading body rest : List Token} {key start close : Token} {name : Option String}
      {children nodes : List Node} (heads : Heading heading key name)
      (opens : start.text = "\x7b") (inside : Spells body children) (closes : close.text = "\x7d")
      (others : Spells rest nodes) :
      Spells (heading ++ start :: (body ++ close :: rest))
        (⟨key.text, name, .block children, key.position⟩ :: nodes)

def Tokens.Moves (ts : Tokens) : List Token → Tokens → Prop
  | [], after => ts = after
  | t :: used, after => ts.peek = t ∧ ts.advance.Moves used after

section

variable {ts after : Tokens} {used first second : List Token} {t : Token} {fuel : Nat}

theorem moves_append : ts.Moves (first ++ second) after ↔
    ∃ middle, ts.Moves first middle ∧ middle.Moves second after := by
  induction first generalizing ts with
  | nil => simp [Tokens.Moves]
  | cons t rest ih => simp [Tokens.Moves, ih, and_assoc]

theorem moves_one : ts.Moves [ts.peek] ts.advance :=
  ⟨rfl, rfl⟩

theorem starts_exact {text : String} : ts.starts text = true ↔ ts.peek.text = text := by
  simp [Tokens.starts]

theorem parseScalar_exact {s : Scalar} :
    parseScalar ts = .ok (s, after) ↔ Denotes ts.peek.text s ∧ after = ts.advance := by
  unfold parseScalar
  split
  · rename_i found
    simp [← ofText?_exact, found, eq_comm]
  · rename_i none
    simp [← ofText?_exact, none]

theorem parseHeading_sound {key : Token} {name : Option String}
    (parsed : parseHeading ts = .ok (key, name, after)) :
    ∃ used, ts.Moves used after ∧ Heading used key name := by
  unfold parseHeading at parsed
  simp only at parsed
  split at parsed
  · rename_i accepted
    have path := isPath_exact.mp accepted
    cases parsed
    cases named : nodeName? ts.advance.peek.text with
    | none => exact ⟨_, moves_one, .bare path⟩
    | some name =>
      exact ⟨[ts.peek, ts.advance.peek], ⟨rfl, rfl, rfl⟩, .named path (nodeName?_exact.mp named)⟩
  · cases parsed

-- A node without a name has to go on with a token that is none.
theorem parseHeading_complete {key : Token} {name : Option String}
    (heads : Heading used key name) (moved : ts.Moves used after)
    (unnamed : nodeName? after.peek.text = none) : parseHeading ts = .ok (key, name, after) := by
  cases heads with
  | bare path =>
    obtain ⟨rfl, rfl⟩ := moved
    simp [parseHeading, isPath_exact.mpr path, unnamed]
  | named path names =>
    obtain ⟨rfl, rfl, rfl⟩ := moved
    simp [parseHeading, isPath_exact.mpr path, nodeName?_exact.mpr names]

theorem parseItems_sound {items : List Scalar} (parsed : parseItems fuel ts = .ok (items, after)) :
    ∃ used, ts.Moves used after ∧ Items used items := by
  induction fuel generalizing ts items after with
  | zero => cases parsed
  | succ fuel ih =>
    obtain ⟨⟨s, next⟩, item, parsed⟩ := bind_ok_exact.mp parsed
    obtain ⟨denotes, rfl⟩ := parseScalar_exact.mp item
    simp only at parsed
    split at parsed
    · rename_i closes
      cases parsed
      exact ⟨[ts.peek, ts.advance.peek], ⟨rfl, rfl, rfl⟩, .last denotes (starts_exact.mp closes)⟩
    · split at parsed
      · rename_i separates
        obtain ⟨⟨more, rest⟩, others, parsed⟩ := bind_ok_exact.mp parsed
        cases parsed
        obtain ⟨used, moved, inside⟩ := ih others
        exact ⟨ts.peek :: ts.advance.peek :: used, ⟨rfl, rfl, moved⟩,
          .more denotes (starts_exact.mp separates) inside⟩
      · cases parsed

theorem parseItems_complete {items : List Scalar} (inside : Items used items)
    (moved : ts.Moves used after) (enough : used.length ≤ fuel) :
    parseItems fuel ts = .ok (items, after) := by
  induction inside generalizing ts fuel with
  | last denotes closes =>
    obtain ⟨rfl, rfl, rfl⟩ := moved
    cases fuel with
    | zero => simp at enough
    | succ fuel =>
      refine bind_ok_exact.mpr ⟨_, parseScalar_exact.mpr ⟨denotes, rfl⟩, ?_⟩
      exact if_pos (starts_exact.mpr closes)
  | more denotes separates others ih =>
    obtain ⟨rfl, rfl, moved⟩ := moved
    cases fuel with
    | zero => simp at enough
    | succ fuel =>
      have goesOn : ¬ts.advance.starts "]" = true := by
        simp [starts_exact, separates]
      refine bind_ok_exact.mpr ⟨_, parseScalar_exact.mpr ⟨denotes, rfl⟩, ?_⟩
      simp only [if_neg goesOn, if_pos (starts_exact.mpr separates)]
      simp only [List.length_cons] at enough
      exact bind_ok_exact.mpr ⟨_, ih moved (by omega), rfl⟩

theorem denotes_ne {text : String} {s : Scalar} (denotes : Denotes text s) :
    text ≠ "" ∧ text ≠ "[" ∧ text ≠ "]" ∧ text ≠ "," := by
  have known := ofText?_exact.mpr denotes
  have other {refused : String} (none : Scalar.ofText? refused = none) : text ≠ refused := by
    rintro rfl
    cases known.symm.trans none
  exact ⟨other rfl, other rfl, other rfl, other rfl⟩

theorem parseValue_sound {content : Content Node}
    (parsed : parseValue fuel ts = .ok (content, after)) :
    ∃ used, ts.Moves used after ∧ Value used content := by
  unfold parseValue at parsed
  split at parsed
  · rename_i opens
    have opens := starts_exact.mp opens
    simp only at parsed
    split at parsed
    · rename_i closes
      cases parsed
      exact ⟨[ts.peek, ts.advance.peek], ⟨rfl, rfl, rfl⟩, .empty opens (starts_exact.mp closes)⟩
    · obtain ⟨⟨items, rest⟩, listed, parsed⟩ := bind_ok_exact.mp parsed
      cases parsed
      obtain ⟨used, moved, inside⟩ := parseItems_sound listed
      exact ⟨ts.peek :: used, ⟨rfl, moved⟩, .list opens inside⟩
  · obtain ⟨⟨s, rest⟩, item, parsed⟩ := bind_ok_exact.mp parsed
    cases parsed
    obtain ⟨denotes, rfl⟩ := parseScalar_exact.mp item
    exact ⟨_, moves_one, .scalar denotes⟩

theorem Items.start {items : List Scalar} (inside : Items used items) :
    ∃ t rest s, used = t :: rest ∧ Denotes t.text s := by
  cases inside with
  | last denotes _ => exact ⟨_, _, _, rfl, denotes⟩
  | more denotes _ _ => exact ⟨_, _, _, rfl, denotes⟩

theorem parseValue_complete {content : Content Node} (tells : Value used content)
    (moved : ts.Moves used after) (enough : used.length ≤ fuel) :
    parseValue fuel ts = .ok (content, after) := by
  unfold parseValue
  cases tells with
  | scalar denotes =>
    obtain ⟨rfl, rfl⟩ := moved
    have single : ¬ts.starts "[" = true := by
      intro opens
      exact (denotes_ne denotes).2.1 (starts_exact.mp opens)
    rw [if_neg single]
    exact bind_ok_exact.mpr ⟨_, parseScalar_exact.mpr ⟨denotes, rfl⟩, rfl⟩
  | empty opens closes =>
    obtain ⟨rfl, rfl, rfl⟩ := moved
    rw [if_pos (starts_exact.mpr opens)]
    exact if_pos (starts_exact.mpr closes)
  | list opens inside =>
    obtain ⟨rfl, moved⟩ := moved
    have filled : ¬ts.advance.starts "]" = true := by
      intro closes
      obtain ⟨t, rest, s, rfl, denotes⟩ := inside.start
      obtain ⟨rfl, _⟩ := moved
      exact (denotes_ne denotes).2.2.1 (starts_exact.mp closes)
    simp only [List.length_cons] at enough
    simp only [if_pos (starts_exact.mpr opens), if_neg filled]
    exact bind_ok_exact.mpr ⟨_, parseItems_complete inside moved (by omega), rfl⟩

theorem parsePlain_sound {content : Content Node}
    (parsed : parsePlain fuel ts = .ok (content, after)) :
    ∃ used, ts.Moves used after ∧ Plain used content := by
  unfold parsePlain at parsed
  split at parsed
  · rename_i assigns
    obtain ⟨⟨value, rest⟩, read, parsed⟩ := bind_ok_exact.mp parsed
    obtain ⟨used, moved, tells⟩ := parseValue_sound read
    simp only at parsed
    split at parsed
    · rename_i ends
      cases parsed
      refine ⟨ts.peek :: (used ++ [rest.peek]), ⟨rfl, moves_append.mpr ⟨rest, moved, moves_one⟩⟩, ?_⟩
      exact .value (starts_exact.mp assigns) tells (starts_exact.mp ends)
    · cases parsed
  · split at parsed
    · rename_i ends
      cases parsed
      exact ⟨_, moves_one, .flag (starts_exact.mp ends)⟩
    · cases parsed

theorem parsePlain_complete {content : Content Node} (tells : Plain used content)
    (moved : ts.Moves used after) (enough : used.length ≤ fuel) :
    parsePlain fuel ts = .ok (content, after) := by
  unfold parsePlain
  cases tells with
  | value assigns inside ends =>
    obtain ⟨rfl, moved⟩ := moved
    obtain ⟨rest, through, rfl, rfl⟩ := moves_append.mp moved
    simp only [List.length_cons, List.length_append] at enough
    rw [if_pos (starts_exact.mpr assigns)]
    refine bind_ok_exact.mpr ⟨_, parseValue_complete inside through (by omega), ?_⟩
    exact if_pos (starts_exact.mpr ends)
  | flag ends =>
    obtain ⟨rfl, rfl⟩ := moved
    have alone : ¬ts.starts "=" = true := by
      simp [starts_exact, ends]
    rw [if_neg alone]
    exact if_pos (starts_exact.mpr ends)

theorem Heading.start {key : Token} {name : Option String} (heads : Heading used key name) :
    ∃ rest, used = key :: rest ∧ Path key.text.toList := by
  cases heads with
  | bare path => exact ⟨_, rfl, path⟩
  | named path _ => exact ⟨_, rfl, path⟩

theorem path_ne {text : String} (path : Path text.toList) : text ≠ "" ∧ text ≠ "\x7d" := by
  have known := isPath_exact.mpr path
  constructor
  · rintro rfl
    exact absurd known (by decide)
  · rintro rfl
    exact absurd known (by decide)

theorem Spells.cons {node : Node} {nodes : List Node} (one : Spells first [node])
    (others : Spells second nodes) : Spells (first ++ second) (node :: nodes) := by
  cases one with
  | plain heads tells none =>
    cases none
    simpa using Spells.plain heads tells others
  | block heads opens inside closes none =>
    cases none
    simpa using Spells.block heads opens inside closes others

theorem Spells.split {node : Node} {nodes : List Node} (spells : Spells used (node :: nodes)) :
    ∃ first rest, used = first ++ rest ∧ Spells first [node] ∧ Spells rest nodes := by
  cases spells with
  | plain heads tells others => exact ⟨_, _, by simp, .plain heads tells .nil, others⟩
  | block heads opens inside closes others =>
    exact ⟨_, _, by simp, .block heads opens inside closes .nil, others⟩

theorem parse_sound (fuel : Nat) :
    (∀ ts node after, parseNode fuel ts = .ok (node, after) →
      ∃ used, ts.Moves used after ∧ Spells used [node]) ∧
    ∀ ts nodes after, parseBlock fuel ts = .ok (nodes, after) →
      ∃ used close, ts.Moves (used ++ [close]) after ∧ close.text = "\x7d" ∧ Spells used nodes := by
  induction fuel with
  | zero => exact ⟨fun _ _ _ parsed => (nomatch parsed), fun _ _ _ parsed => (nomatch parsed)⟩
  | succ fuel ih =>
    obtain ⟨nodeSound, blockSound⟩ := ih
    constructor
    · intro ts node after parsed
      obtain ⟨⟨key, name, middle⟩, heading, parsed⟩ := bind_ok_exact.mp parsed
      obtain ⟨head, toMiddle, heads⟩ := parseHeading_sound heading
      simp only at parsed
      split at parsed
      · rename_i opens
        obtain ⟨⟨children, rest⟩, block, parsed⟩ := bind_ok_exact.mp parsed
        cases parsed
        obtain ⟨body, close, inner, closes, inside⟩ := blockSound _ _ _ block
        refine ⟨head ++ middle.peek :: (body ++ [close]),
          moves_append.mpr ⟨middle, toMiddle, rfl, inner⟩, ?_⟩
        exact .block heads (starts_exact.mp opens) inside closes .nil
      · obtain ⟨⟨content, rest⟩, plain, parsed⟩ := bind_ok_exact.mp parsed
        cases parsed
        obtain ⟨tail, through, tells⟩ := parsePlain_sound plain
        refine ⟨_, moves_append.mpr ⟨middle, toMiddle, through⟩, ?_⟩
        simpa using Spells.plain heads tells .nil
    · intro ts nodes after parsed
      rw [parseBlock] at parsed
      split at parsed
      · rename_i closes
        cases parsed
        exact ⟨[], ts.peek, moves_one, starts_exact.mp closes, .nil⟩
      · split at parsed
        · cases parsed
        · obtain ⟨⟨node, middle⟩, first, parsed⟩ := bind_ok_exact.mp parsed
          obtain ⟨⟨more, rest⟩, others, parsed⟩ := bind_ok_exact.mp parsed
          cases parsed
          obtain ⟨used, toMiddle, one⟩ := nodeSound _ _ _ first
          obtain ⟨later, close, toEnd, closes, spells⟩ := blockSound _ _ _ others
          refine ⟨used ++ later, close, ?_, closes, one.cons spells⟩
          rw [List.append_assoc]
          exact moves_append.mpr ⟨middle, toMiddle, toEnd⟩

theorem parseNode_plain {heading tail : List Token} {key : Token} {name : Option String}
    {content : Content Node} (heads : Heading heading key name) (tells : Plain tail content)
    (moved : ts.Moves (heading ++ tail) after) (enough : (heading ++ tail).length ≤ fuel) :
    parseNode fuel ts = .ok (⟨key.text, name, content, key.position⟩, after) := by
  obtain ⟨middle, toMiddle, through⟩ := moves_append.mp moved
  -- Neither an equals sign nor a semicolon is a name or an opening brace.
  have behind : middle.peek.text = "=" ∨ middle.peek.text = ";" := by
    cases tells with
    | value assigns _ _ => exact .inl (through.1 ▸ assigns)
    | flag ends => exact .inr (through.1 ▸ ends)
  have unnamed : nodeName? middle.peek.text = none := by
    rcases behind with same | same <;> rw [same] <;> decide
  have closed : ¬middle.starts "\x7b" = true := by
    rcases behind with same | same <;> simp [starts_exact, same]
  obtain ⟨rest, rfl, _⟩ := heads.start
  simp only [List.cons_append, List.length_cons, List.length_append] at enough
  cases fuel with
  | zero => omega
  | succ fuel =>
    refine bind_ok_exact.mpr ⟨_, parseHeading_complete heads toMiddle unnamed, ?_⟩
    simp only [if_neg closed]
    exact bind_ok_exact.mpr ⟨_, parsePlain_complete tells through (by omega), rfl⟩

theorem parseNode_block {heading : List Token} {key : Token} {name : Option String}
    {children : List Node} {middle : Tokens} (heads : Heading heading key name)
    (moved : ts.Moves heading middle) (opens : middle.peek.text = "\x7b")
    (block : parseBlock fuel middle.advance = .ok (children, after)) :
    parseNode (fuel + 1) ts = .ok (⟨key.text, name, .block children, key.position⟩, after) := by
  have unnamed : nodeName? middle.peek.text = none := by
    rw [opens]
    decide
  refine bind_ok_exact.mpr ⟨_, parseHeading_complete heads moved unnamed, ?_⟩
  simp only [if_pos (starts_exact.mpr opens)]
  exact bind_ok_exact.mpr ⟨_, block, rfl⟩

theorem parseBlock_cons {node : Node} {nodes : List Node} {middle : Tokens}
    (path : Path ts.peek.text.toList) (first : parseNode fuel ts = .ok (node, middle))
    (others : parseBlock fuel middle = .ok (nodes, after)) :
    parseBlock (fuel + 1) ts = .ok (node :: nodes, after) := by
  obtain ⟨some, closed⟩ := path_ne path
  rw [parseBlock, if_neg (fun closes => closed (starts_exact.mp closes)),
    if_neg (fun ended => some (starts_exact.mp ended))]
  exact bind_ok_exact.mpr ⟨_, first, bind_ok_exact.mpr ⟨_, others, rfl⟩⟩

theorem parseBlock_complete {nodes : List Node} (spells : Spells used nodes)
    (moved : ts.Moves used after) (closes : after.peek.text = "\x7d")
    (enough : used.length < fuel) : parseBlock fuel ts = .ok (nodes, after.advance) := by
  induction spells generalizing ts after fuel with
  | nil =>
    cases moved
    cases fuel with
    | zero => simp at enough
    | succ fuel => exact if_pos (starts_exact.mpr closes)
  | plain heads tells others ih =>
    rw [← List.append_assoc] at moved
    obtain ⟨middle, first, rest⟩ := moves_append.mp moved
    obtain ⟨more, rfl, path⟩ := heads.start
    cases fuel with
    | zero => simp at enough
    | succ fuel =>
      simp only [List.cons_append, List.length_cons, List.length_append] at enough
      have here : ts.peek = _ := first.1
      refine parseBlock_cons (here ▸ path) (parseNode_plain heads tells first ?_) ?_
      · simp only [List.cons_append, List.length_cons, List.length_append]
        omega
      · exact ih rest closes (by omega)
  | block heads opens _ shuts _ children later =>
    obtain ⟨middle, first, rfl, within⟩ := moves_append.mp moved
    obtain ⟨last, inside, rfl, rest⟩ := moves_append.mp within
    obtain ⟨more, rfl, path⟩ := heads.start
    simp only [List.cons_append, List.length_cons, List.length_append] at enough
    match fuel, enough with
    | fuel + 2, enough =>
      have block : parseBlock fuel middle.advance = .ok (_, last.advance) :=
        children inside shuts (by omega)
      refine parseBlock_cons (first.1 ▸ path) (parseNode_block heads first opens block) ?_
      exact later rest closes (by omega)

theorem parseNode_complete {node : Node} (spells : Spells used [node]) (moved : ts.Moves used after)
    (enough : used.length ≤ fuel) : parseNode fuel ts = .ok (node, after) := by
  cases spells with
  | plain heads tells none =>
    cases none
    rw [List.append_nil] at moved enough
    exact parseNode_plain heads tells moved enough
  | block heads opens inside closes none =>
    cases none
    obtain ⟨middle, first, rfl, within⟩ := moves_append.mp moved
    obtain ⟨last, inner, rfl, rfl⟩ := moves_append.mp within
    simp only [List.length_append, List.length_cons, List.length_nil] at enough
    cases fuel with
    | zero => omega
    | succ fuel =>
      exact parseNode_block heads first opens (parseBlock_complete inside inner closes (by omega))

theorem parseFile_sound {nodes : List Node} (parsed : parseFile fuel ts = .ok nodes) :
    ∃ used after, ts.Moves used after ∧ after.peek.text = "" ∧ Spells used nodes := by
  induction fuel generalizing ts nodes with
  | zero => cases parsed
  | succ fuel ih =>
    rw [parseFile] at parsed
    split at parsed
    · rename_i ended
      cases parsed
      exact ⟨[], ts, rfl, starts_exact.mp ended, .nil⟩
    · obtain ⟨⟨node, middle⟩, first, parsed⟩ := bind_ok_exact.mp parsed
      obtain ⟨more, others, parsed⟩ := bind_ok_exact.mp parsed
      cases parsed
      obtain ⟨used, toMiddle, one⟩ := (parse_sound fuel).1 _ _ _ first
      obtain ⟨later, after, toEnd, ended, spells⟩ := ih others
      exact ⟨_, after, moves_append.mpr ⟨middle, toMiddle, toEnd⟩, ended, one.cons spells⟩

theorem Spells.start {node : Node} {nodes : List Node} (spells : Spells used (node :: nodes)) :
    ∃ t rest, used = t :: rest ∧ Path t.text.toList := by
  cases spells with
  | plain heads _ _ =>
    obtain ⟨rest, rfl, path⟩ := heads.start
    exact ⟨_, _, rfl, path⟩
  | block heads _ _ _ _ =>
    obtain ⟨rest, rfl, path⟩ := heads.start
    exact ⟨_, _, rfl, path⟩

theorem parseFile_complete {nodes : List Node} (spells : Spells used nodes)
    (moved : ts.Moves used after) (ended : after.peek.text = "") (enough : used.length < fuel) :
    parseFile fuel ts = .ok nodes := by
  induction nodes generalizing used ts fuel with
  | nil =>
    cases spells
    cases moved
    cases fuel with
    | zero => simp at enough
    | succ fuel => exact if_pos (starts_exact.mpr ended)
  | cons node nodes ih =>
    obtain ⟨first, rest, rfl, one, others⟩ := spells.split
    obtain ⟨middle, toMiddle, toEnd⟩ := moves_append.mp moved
    obtain ⟨key, more, rfl, path⟩ := one.start
    simp only [List.cons_append, List.length_cons, List.length_append] at enough
    cases fuel with
    | zero => omega
    | succ fuel =>
      have begun : ¬ts.starts "" = true := by
        intro none
        exact (path_ne path).1 (toMiddle.1 ▸ starts_exact.mp none)
      have node : parseNode fuel ts = .ok (node, middle) := by
        refine parseNode_complete one toMiddle ?_
        simp only [List.length_cons]
        omega
      rw [parseFile, if_neg begun]
      exact bind_ok_exact.mpr ⟨_, node, bind_ok_exact.mpr ⟨_, ih others toEnd (by omega), rfl⟩⟩

end

end WireSchema.Source
