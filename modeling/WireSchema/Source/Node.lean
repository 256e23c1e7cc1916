import WireSchema.Source.Token

namespace WireSchema.Source

-- node  := KEY [NAME] ( '=' value ';' | '(' node* ')' | ';' )
-- value := scalar | '[' [scalar (',' scalar)*] ']'
-- with braces for the round brackets around the nodes of a block. Reading past the last token sees
-- that token again.

inductive Scalar where
  | quoted (text : String)
  | number (text : String)
  | name (text : String)
  | arrayOf (element : String)
deriving DecidableEq, Repr, Inhabited

def Scalar.text : Scalar → String
  | quoted s => s
  | number s => s
  | name s => s
  | arrayOf s => s

inductive Content (ν : Type) where
  | scalar (value : Scalar)
  | list (items : List Scalar)
  | block (children : List ν)
  | flag
deriving Repr

structure Node where
  key : String
  name : Option String
  content : Content Node
  position : Position

def Content.kindName {ν : Type} : Content ν → String
  | scalar _ => "scalar"
  | list _ => "list"
  | block _ => "block"
  | flag => "flag"

-- Token texts are classified anew, since tokens may come from elsewhere than `tokenize`.

def isPath (text : List Char) : Bool :=
  0 < pathLength text && pathLength text == text.length

def isQuoted (text : List Char) : Bool :=
  2 ≤ text.length && text.head? == some '"' && text.getLast? == some '"' && !text.contains '\n'

def isUnsignedNumber (text : List Char) : Bool :=
  let behind := text.dropWhile Text.isDecimalDigit
  let fraction :=
    match behind with
    | [] => true
    | '.' :: rest => !rest.isEmpty && rest.all Text.isDecimalDigit
    | _ => false
  behind.length < text.length && fraction

def isNumber : List Char → Bool
  | '-' :: rest => isUnsignedNumber rest
  | text => isUnsignedNumber text

def arrayElement? (text : List Char) : Option (List Char) :=
  if arrayLength? text = some text.length then some ((text.drop 6).dropLast) else none

-- Before `n` and `t` a backslash makes a line end and a tab, before anything else it only protects
-- it, and at the very end it stands for itself.
def unescape : List Char → List Char
  | [] => []
  | ['\\'] => ['\\']
  | '\\' :: 'n' :: rest => '\n' :: unescape rest
  | '\\' :: 't' :: rest => '\t' :: unescape rest
  | '\\' :: c :: rest => c :: unescape rest
  | c :: rest => c :: unescape rest

def unquote (text : List Char) : String :=
  String.ofList (unescape (text.drop 1).dropLast)

def Scalar.ofText? (text : String) : Option Scalar :=
  let cs := text.toList
  match arrayElement? cs with
  | some element => some (.arrayOf (String.ofList element))
  | none =>
    if isQuoted cs then some (.quoted (unquote cs))
    else if isNumber cs then some (.number text)
    else if isPath cs then some (.name text)
    else none

def nodeName? (text : String) : Option String :=
  if isPath text.toList then some text
  else if isQuoted text.toList then some (unquote text.toList)
  else none

structure Tokens where
  ahead : List Token
  last : Token

namespace Tokens

def peek (ts : Tokens) : Token :=
  ts.ahead.head?.getD ts.last

def advance (ts : Tokens) : Tokens :=
  ⟨ts.ahead.tail, ts.last⟩

def starts (ts : Tokens) (text : String) : Bool :=
  ts.peek.text == text

def unexpected (ts : Tokens) : SyntaxError :=
  ⟨.unexpected ts.peek.text, ts.peek.position⟩

def expected (ts : Tokens) (what : String) : SyntaxError :=
  ⟨.expected what ts.peek.text, ts.peek.position⟩

end Tokens

def parseScalar (ts : Tokens) : Except SyntaxError (Scalar × Tokens) :=
  match Scalar.ofText? ts.peek.text with
  | some s => .ok (s, ts.advance)
  | none => .error ts.unexpected

def parseItems : Nat → Tokens → Except SyntaxError (List Scalar × Tokens)
  | 0, ts => .error ts.unexpected
  | fuel + 1, ts => do
    let (item, ts) ← parseScalar ts
    if ts.starts "]" then return ([item], ts.advance)
    else if ts.starts "," then
      let (items, ts) ← parseItems fuel ts.advance
      return (item :: items, ts)
    else .error (ts.expected "\",\" or \"]\"")

def parseValue {ν : Type} (fuel : Nat) (ts : Tokens) : Except SyntaxError (Content ν × Tokens) :=
  if ts.starts "[" then
    let ts := ts.advance
    if ts.starts "]" then .ok (.list [], ts.advance)
    else do
      let (items, ts) ← parseItems fuel ts
      return (.list items, ts)
  else do
    let (s, ts) ← parseScalar ts
    return (.scalar s, ts)

-- A token that can be no name is left for what follows.
def parseHeading (ts : Tokens) : Except SyntaxError (Token × Option String × Tokens) :=
  let key := ts.peek
  if isPath key.text.toList then
    let name := nodeName? ts.advance.peek.text
    .ok (key, name, if name.isSome then ts.advance.advance else ts.advance)
  else .error (ts.expected "identifier")

def parsePlain {ν : Type} (fuel : Nat) (ts : Tokens) : Except SyntaxError (Content ν × Tokens) :=
  if ts.starts "=" then do
    let (content, ts) ← parseValue fuel ts.advance
    if ts.starts ";" then return (content, ts.advance)
    else .error (ts.expected "\";\"")
  else if ts.starts ";" then .ok (.flag, ts.advance)
  else .error ts.unexpected

mutual

-- Every call consumes tokens or fails, so their number is fuel enough.
def parseNode : Nat → Tokens → Except SyntaxError (Node × Tokens)
  | 0, ts => .error ts.unexpected
  | fuel + 1, ts => do
    let (key, name, ts) ← parseHeading ts
    if ts.starts "\x7b" then
      let (children, ts) ← parseBlock fuel ts.advance
      return (⟨key.text, name, .block children, key.position⟩, ts)
    else
      let (content, ts) ← parsePlain fuel ts
      return (⟨key.text, name, content, key.position⟩, ts)

def parseBlock : Nat → Tokens → Except SyntaxError (List Node × Tokens)
  | 0, ts => .error ts.unexpected
  | fuel + 1, ts =>
    if ts.starts "\x7d" then .ok ([], ts.advance)
    -- Behind the empty token no brace can close the block.
    else if ts.starts "" then .error ts.unexpected
    else do
      let (node, ts) ← parseNode fuel ts
      let (nodes, ts) ← parseBlock fuel ts
      return (node :: nodes, ts)

end

def parseFile : Nat → Tokens → Except SyntaxError (List Node)
  | 0, ts => .error ts.unexpected
  | fuel + 1, ts =>
    if ts.starts "" then .ok []
    else do
      let (node, ts) ← parseNode fuel ts
      let nodes ← parseFile fuel ts
      return node :: nodes

def parseNodes (tokens : List Token) : Except SyntaxError (List Node) :=
  match tokens.getLast? with
  | none => .error ⟨.endOfInput, ⟨0, 0⟩⟩
  | some last => parseFile (2 * tokens.length + 4) ⟨tokens, last⟩

end WireSchema.Source
