import Mathlib.Algebra.BigOperators.Group.List.Basic
import WireSchema.Proofs.Bson.Bytes
import WireSchema.Proofs.Outcome
import WireSchema.Proofs.Schema.Reading
import WireSchema.Proofs.Source.Scanning
import WireSchema.Proofs.Source.Trees
import WireSchema.Schema.Import

namespace WireSchema.Source

def Content.width : Content Node → Nat
  | .list items => items.length
  | _ => 1

section

variable {before text : List Char} {used tokens : List Token} {items : List Scalar}
  {content : Content Node} {node : Node} {nodes : List Node}

theorem Cuts.length (cuts : Cuts before text tokens) : tokens.length ≤ text.length + 1 := by
  induction cuts with
  | last => simp
  | next skipped found solid more ih =>
    have some := List.length_pos_iff.mpr found.nonempty
    simp only [List.length_cons, List.length_append]
    omega

theorem Items.length (inside : Items used items) : items.length ≤ used.length := by
  induction inside with
  | last => simp
  | more _ _ _ ih =>
    simp only [List.length_cons]
    omega

theorem Plain.width (tells : Plain used content) : content.width ≤ used.length := by
  cases tells with
  | flag => simp [Content.width]
  | value assigns inside ends =>
    cases inside with
    | scalar => simp [Content.width]
    | empty => simp [Content.width]
    | list opens inside =>
      have fewer := inside.length
      simp only [Content.width, List.length_cons, List.length_append]
      omega

theorem Spells.width (spells : Spells used nodes) (member : node ∈ nodes) :
    node.content.width ≤ used.length := by
  induction spells with
  | nil => cases member
  | plain heads tells others ih =>
    simp only [List.length_append]
    rcases List.mem_cons.mp member with rfl | later
    · have fewer := tells.width
      simp only
      omega
    · have fewer := ih later
      omega
  | block heads opens inside closes others _ ih =>
    simp only [List.length_append, List.length_cons]
    rcases List.mem_cons.mp member with rfl | later
    · simp only [Content.width]
      omega
    · have fewer := ih later
      omega

end

end WireSchema.Source

namespace WireSchema.Schema

-- Every import is told by a token of its own, and a token has a character at least.

section

variable {file text : String} {node : Source.Node} {files : List String} {imports : Imports}

theorem sequence_length (read : (Entry.sequence file node).value = some files) :
    files.length ≤ node.content.width := by
  unfold Entry.sequence at read
  split at read
  · rename_i items listed
    cases read
    simp [listed, Source.Content.width]
  · cases read
  · cases read
  · cases read
  · rename_i s single
    cases read
    simp [single, Source.Content.width]

theorem length_le_bytes (text : String) : text.toList.length ≤ text.utf8ByteSize := by
  have size : text.utf8ByteSize = (Bson.textBytes text).length := rfl
  rw [size, Bson.textBytes_flatMap, List.length_flatMap]
  refine (List.length_map _).symm.trans_le (List.length_le_sum_of_one_le _ fun n member => ?_)
  obtain ⟨c, -, rfl⟩ := List.mem_map.mp member
  rw [String.length_utf8EncodeChar]
  exact Char.utf8Size_pos c

theorem imports_length (listed : (parseText text file).value.imports = some imports) :
    imports.files.length ≤ text.utf8ByteSize := by
  unfold parseText at listed
  split at listed
  swap
  · cases listed
  rename_i nodes parsed
  obtain ⟨node, member, given⟩ := List.exists_of_findSome?_eq_some (readSpec_imports ▸ listed)
  unfold importsOf at given
  split at given
  swap
  · cases given
  obtain ⟨files, read, rfl⟩ := Option.map_eq_some_iff.mp given
  obtain ⟨tokens, cut, parsed⟩ := bind_ok_exact.mp parsed
  have cuts := Source.tokenize_exact text
  rw [cut] at cuts
  obtain ⟨body, stop, rest, rfl, -, -, spells⟩ := Source.parseNodes_ok_exact.mp parsed
  have narrow := sequence_length read
  have fewer := spells.width member
  have short := cuts.1.length
  have bytes := length_le_bytes text
  simp only [List.length_append, List.length_cons] at short
  show files.length ≤ _
  omega

theorem requests_length :
    ((parseText text file).value.requests file).length ≤ text.utf8ByteSize := by
  unfold Spec.requests
  split
  · rename_i imports listed
    rw [List.length_map]
    exact imports_length listed
  · exact Nat.zero_le _

end

end WireSchema.Schema
