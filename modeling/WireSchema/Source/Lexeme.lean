import WireSchema.Text.Blank
import WireSchema.Text.DecimalDigit
import WireSchema.Text.WordChar

namespace WireSchema.Source

-- The classes are tried in a fixed order and the first that finds something decides; each takes as
-- much as it can. Only numbers look one character further, since a number must end at a word
-- boundary, and only names look one character back, since a name must start at one.

def isNameStart (c : Char) : Bool :=
  c.isAlpha || c == '_'

def isNameRest (c : Char) : Bool :=
  c.isAlphanum || c == '_'

def nameLength : List Char → Nat
  | [] => 0
  | c :: rest => if isNameStart c then 1 + (rest.takeWhile isNameRest).length else 0

-- A backslash takes the next character with it, and no line may end inside.
def closingLength? : List Char → Option Nat
  | [] => none
  | '"' :: _ => some 1
  | '\n' :: _ => none
  | ['\\'] => none
  | '\\' :: c :: rest => if c = '\n' then none else (closingLength? rest).map (· + 2)
  | _ :: rest => (closingLength? rest).map (· + 1)

def quotedLength? : List Char → Option Nat
  | '"' :: rest => (closingLength? rest).map (· + 1)
  | _ => none

-- The character before is taken to belong to the word.
def atWordEnd : List Char → Bool
  | [] => true
  | c :: _ => !Text.isWordChar c

def digitCount (text : List Char) : Nat :=
  (text.takeWhile Text.isDecimalDigit).length

-- When a word goes on behind the fraction, the digits before the point are still a number of their
-- own.
def unsignedLength? (text : List Char) : Option Nat :=
  let whole := digitCount text
  if whole = 0 then none else
  let behind := text.drop whole
  let fraction :=
    match behind with
    | '.' :: rest => digitCount rest
    | _ => 0
  if 0 < fraction && atWordEnd (behind.drop (fraction + 1)) then some (whole + fraction + 1)
  else if atWordEnd behind then some whole
  else none

def numberLength? : List Char → Option Nat
  | '-' :: rest => (unsignedLength? rest).map (· + 1)
  | text => unsignedLength? text

def arrayLength? : List Char → Option Nat
  | 'a' :: 'r' :: 'r' :: 'a' :: 'y' :: '<' :: rest =>
    let n := nameLength rest
    match rest.drop n with
    | '>' :: _ => if n = 0 then none else some (n + 7)
    | _ => none
  | _ => none

def isPunctuation (c : Char) : Bool :=
  c == '=' || c == ';' || c == '\x7b' || c == '\x7d' || c == '[' || c == ']' || c == ','

def punctuationLength? : List Char → Option Nat
  | c :: _ => if isPunctuation c then some 1 else none
  | [] => none

def pathRestLength : Nat → List Char → Nat
  | fuel + 1, ':' :: ':' :: rest =>
    let n := nameLength rest
    if n = 0 then 0 else n + 2 + pathRestLength fuel (rest.drop n)
  | _, _ => 0

def pathLength (text : List Char) : Nat :=
  let n := nameLength text
  if n = 0 then 0 else n + pathRestLength text.length (text.drop n)

def pathLength? (previous : Option Char) (text : List Char) : Option Nat :=
  if previous.any Text.isWordChar then none
  else if pathLength text = 0 then none
  else some (pathLength text)

def commentLength? : List Char → Option Nat
  | '/' :: '/' :: rest => some ((rest.takeWhile (· != '\n')).length + 2)
  | '#' :: rest => some ((rest.takeWhile (· != '\n')).length + 1)
  | _ => none

def blankLength? (text : List Char) : Option Nat :=
  let n := (text.takeWhile Text.isBlank).length
  if n = 0 then none else some n

def lexemeLength? (previous : Option Char) (text : List Char) : Option Nat :=
  (quotedLength? text).or <| (numberLength? text).or <| (arrayLength? text).or <|
    (punctuationLength? text).or <| (pathLength? previous text).or <|
    (commentLength? text).or <| blankLength? text

def strayText (previous : Option Char) : List Char → List Char
  | [] => []
  | c :: rest =>
    if (lexemeLength? previous (c :: rest)).isSome then [] else c :: strayText (some c) rest

def isSkipped : List Char → Bool
  | '/' :: '/' :: _ => true
  | '#' :: _ => true
  | c :: _ => Text.isBlank c
  | [] => false

end WireSchema.Source
