import WireSchema.Text.Quoted

namespace WireSchema

inductive Json where
  | null
  | bool (flag : Bool)
  | number (value : Int)
  | text (value : String)
  | list (items : List Json)
  | record (fields : List (String × Json))

namespace Json

instance : Inhabited Json := ⟨.null⟩

def ofOption {α : Type} (f : α → Json) : Option α → Json
  | some a => f a
  | none => .null

def ofText? : Option String → Json :=
  ofOption .text

def texts (items : List String) : Json :=
  .list (items.map .text)

def nat (n : Nat) : Json :=
  .number n

mutual

def compact : Json → String
  | .null => "null"
  | .bool b => if b then "true" else "false"
  | .number n => toString n
  | .text s => Quoted.json s
  | .list items => "[" ++ ",".intercalate (compactItems items) ++ "]"
  | .record fields => "\x7b" ++ ",".intercalate (compactFields fields) ++ "\x7d"

def compactItems : List Json → List String
  | [] => []
  | j :: rest => j.compact :: compactItems rest

def compactFields : List (String × Json) → List String
  | [] => []
  | (k, j) :: rest => (Quoted.json k ++ ":" ++ j.compact) :: compactFields rest

end

def margin (level : Nat) : String :=
  String.ofList (List.replicate (2 * level) ' ')

def bracketed (opening closing : String) (level : Nat) (entries : List String) : String :=
  if entries.isEmpty then opening ++ closing
  else
    opening ++ "\n" ++ ",\n".intercalate (entries.map (margin (level + 1) ++ ·)) ++ "\n"
      ++ margin level ++ closing

mutual

def prettyAt (level : Nat) : Json → String
  | .null => "null"
  | .bool b => if b then "true" else "false"
  | .number n => toString n
  | .text s => Quoted.json s
  | .list items => bracketed "[" "]" level (prettyItems (level + 1) items)
  | .record fields => bracketed "\x7b" "\x7d" level (prettyFields (level + 1) fields)

def prettyItems (level : Nat) : List Json → List String
  | [] => []
  | j :: rest => j.prettyAt level :: prettyItems level rest

def prettyFields (level : Nat) : List (String × Json) → List String
  | [] => []
  | (k, j) :: rest => (Quoted.json k ++ ": " ++ j.prettyAt level) :: prettyFields level rest

end

def pretty (j : Json) : String :=
  j.prettyAt 0

end Json

end WireSchema
