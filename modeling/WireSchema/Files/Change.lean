import WireSchema.Files.Tree

namespace WireSchema.Files.FileTree

-- A directory stands before its content.
def changesBelow (before after : FileTree) (p : Place) : List (Place × Entry) :=
  (after.below p).filter fun (names, e) => before.entry? (p ++ names) != some e

def vanished (before after : FileTree) : List Place :=
  (before.entries.map (·.1)).filter fun p => (after.entry? p).isNone

end WireSchema.Files.FileTree
