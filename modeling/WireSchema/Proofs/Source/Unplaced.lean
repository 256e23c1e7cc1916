import WireSchema.Proofs.Source.Trees

namespace WireSchema.Source

mutual

def Node.unplaced : Node → Node
  | ⟨key, name, content, _⟩ => ⟨key, name, content.unplaced, ⟨0, 0⟩⟩

def Content.unplaced : Content Node → Content Node
  | .scalar value => .scalar value
  | .list items => .list items
  | .block children => .block (unplacedAll children)
  | .flag => .flag

def unplacedAll : List Node → List Node
  | [] => []
  | node :: rest => node.unplaced :: unplacedAll rest

end

section

variable {used again : List Token} {nodes : List Node}

theorem Items.alike {items : List Scalar} (inside : Items used items)
    (same : again.map Token.text = used.map Token.text) : Items again items := by
  induction inside generalizing again with
  | last denotes closes =>
    obtain ⟨item, rest, rfl, first, same⟩ := List.map_eq_cons_iff.mp same
    obtain ⟨close, rest, rfl, last, same⟩ := List.map_eq_cons_iff.mp same
    cases List.map_eq_nil_iff.mp same
    exact .last (first ▸ denotes) (last.trans closes)
  | more denotes separates _ ih =>
    obtain ⟨item, rest, rfl, first, same⟩ := List.map_eq_cons_iff.mp same
    obtain ⟨comma, rest, rfl, second, same⟩ := List.map_eq_cons_iff.mp same
    exact .more (first ▸ denotes) (second.trans separates) (ih same)

theorem Value.alike {content : Content Node} (inside : Value used content)
    (same : again.map Token.text = used.map Token.text) : Value again content := by
  cases inside with
  | scalar denotes =>
    obtain ⟨token, rest, rfl, first, same⟩ := List.map_eq_cons_iff.mp same
    cases List.map_eq_nil_iff.mp same
    exact .scalar (first ▸ denotes)
  | empty opens closes =>
    obtain ⟨start, rest, rfl, first, same⟩ := List.map_eq_cons_iff.mp same
    obtain ⟨close, rest, rfl, last, same⟩ := List.map_eq_cons_iff.mp same
    cases List.map_eq_nil_iff.mp same
    exact .empty (first.trans opens) (last.trans closes)
  | list opens inside =>
    obtain ⟨start, rest, rfl, first, same⟩ := List.map_eq_cons_iff.mp same
    exact .list (first.trans opens) (inside.alike same)

theorem Plain.alike {content : Content Node} (tells : Plain used content)
    (same : again.map Token.text = used.map Token.text) : Plain again content := by
  cases tells with
  | value assigns inside ends =>
    obtain ⟨equals, rest, rfl, first, same⟩ := List.map_eq_cons_iff.mp same
    rw [List.map_append] at same
    obtain ⟨body, tail, rfl, middle, same⟩ := List.map_eq_append_iff.mp same
    obtain ⟨semicolon, tail, rfl, last, same⟩ := List.map_eq_cons_iff.mp same
    cases List.map_eq_nil_iff.mp same
    exact .value (first.trans assigns) (inside.alike middle) (last.trans ends)
  | flag ends =>
    obtain ⟨semicolon, rest, rfl, first, same⟩ := List.map_eq_cons_iff.mp same
    cases List.map_eq_nil_iff.mp same
    exact .flag (first.trans ends)

theorem Heading.alike {key : Token} {name : Option String} (heads : Heading used key name)
    (same : again.map Token.text = used.map Token.text) :
    ∃ other, Heading again other name ∧ other.text = key.text := by
  cases heads with
  | bare path =>
    obtain ⟨other, rest, rfl, first, same⟩ := List.map_eq_cons_iff.mp same
    cases List.map_eq_nil_iff.mp same
    exact ⟨other, .bare (first ▸ path), first⟩
  | named path names =>
    obtain ⟨other, rest, rfl, first, same⟩ := List.map_eq_cons_iff.mp same
    obtain ⟨token, rest, rfl, second, same⟩ := List.map_eq_cons_iff.mp same
    cases List.map_eq_nil_iff.mp same
    exact ⟨other, .named (first ▸ path) (second ▸ names), first⟩

theorem Spells.alike (spells : Spells used nodes)
    (same : again.map Token.text = used.map Token.text) :
    ∃ others, Spells again others ∧ unplacedAll others = unplacedAll nodes := by
  induction spells generalizing again with
  | nil =>
    cases List.map_eq_nil_iff.mp same
    exact ⟨[], .nil, rfl⟩
  | plain heads tells _ ih =>
    rw [List.map_append, List.map_append] at same
    obtain ⟨heading, rest, rfl, first, same⟩ := List.map_eq_append_iff.mp same
    obtain ⟨tail, rest, rfl, second, same⟩ := List.map_eq_append_iff.mp same
    obtain ⟨key, heads, text⟩ := heads.alike first
    obtain ⟨others, spells, equal⟩ := ih same
    exact ⟨_, .plain heads (tells.alike second) spells,
      by simp [unplacedAll, Node.unplaced, text, equal]⟩
  | block heads opens _ closes _ children later =>
    simp only [List.map_append, List.map_cons] at same
    obtain ⟨heading, rest, rfl, first, same⟩ := List.map_eq_append_iff.mp same
    obtain ⟨start, rest, rfl, second, same⟩ := List.map_eq_cons_iff.mp same
    obtain ⟨body, rest, rfl, third, same⟩ := List.map_eq_append_iff.mp same
    obtain ⟨close, rest, rfl, fourth, same⟩ := List.map_eq_cons_iff.mp same
    obtain ⟨key, heads, text⟩ := heads.alike first
    obtain ⟨inner, inside, within⟩ := children third
    obtain ⟨others, spells, equal⟩ := later same
    exact ⟨_, .block heads (second.trans opens) inside (fourth.trans closes) spells,
      by simp [unplacedAll, Node.unplaced, Content.unplaced, text, within, equal]⟩

theorem parseNodes_again (read : parseNodes used = .ok nodes)
    (same : again.map Token.text = used.map Token.text) :
    ∃ others, parseNodes again = .ok others ∧ unplacedAll others = unplacedAll nodes := by
  obtain ⟨body, stop, rest, rfl, ended, texts, spells⟩ := parseNodes_ok_exact.mp read
  simp only [List.map_append, List.map_cons] at same
  obtain ⟨front, behind, rfl, first, same⟩ := List.map_eq_append_iff.mp same
  obtain ⟨last, behind, rfl, second, _⟩ := List.map_eq_cons_iff.mp same
  obtain ⟨others, spells, equal⟩ := spells.alike first
  exact ⟨others, parseNodes_ok_exact.mpr
    ⟨front, last, behind, rfl, second.trans ended, spells.texts, spells⟩, equal⟩

theorem parseNodes_unplaced (same : again.map Token.text = used.map Token.text) :
    (parseNodes again).toOption.map unplacedAll = (parseNodes used).toOption.map unplacedAll := by
  cases read : parseNodes used with
  | ok nodes =>
    obtain ⟨others, found, equal⟩ := parseNodes_again read same
    rw [found]
    exact congrArg some equal
  | error e =>
    cases found : parseNodes again with
    | ok nodes =>
      obtain ⟨others, other, _⟩ := parseNodes_again found same.symm
      cases read.symm.trans other
    | error e => rfl

end

end WireSchema.Source
