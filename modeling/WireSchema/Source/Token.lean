import WireSchema.Source.Lexeme
import WireSchema.Text.Quoted

namespace WireSchema.Source

-- Lines count from one, and bytes from one within a line.
structure Position where
  line : Nat
  column : Nat
deriving DecidableEq, Repr, Inhabited

def Position.after : Position → List Char → Position
  | p, [] => p
  | p, c :: rest =>
    if c = '\n' then Position.after ⟨p.line + 1, 1⟩ rest
    else Position.after ⟨p.line, p.column + c.utf8Size⟩ rest

structure Token where
  text : String
  position : Position
deriving DecidableEq, Repr, Inhabited

inductive SyntaxFault where
  | strayText (text : String)
  | endOfInput
  | expected (what found : String)
  | unexpected (found : String)
deriving DecidableEq, Repr

def SyntaxFault.message : SyntaxFault → String
  | strayText text => "Syntax error: " ++ Quoted.json text
  | endOfInput => "Unexpected end of input"
  | expected what found => "Expected " ++ what ++ " but found " ++ Quoted.json found
  | unexpected found => "Unexpected token " ++ Quoted.json found

structure SyntaxError where
  fault : SyntaxFault
  position : Position
deriving DecidableEq, Repr

def SyntaxError.message (e : SyntaxError) : String :=
  s!"Parse error at line {e.position.line}, column {e.position.column}: " ++ e.fault.message

def scan (p : Position) (previous : Option Char) (text : List Char) :
    Except SyntaxError (List Token) :=
  match text with
  | [] => .ok [⟨"", p⟩]
  | c :: rest =>
    match lexemeLength? previous (c :: rest) with
    | none => .error ⟨.strayText (String.ofList (strayText previous (c :: rest))), p⟩
    | some n =>
      let piece := c :: rest.take (n - 1)
      match scan (p.after piece) piece.getLast? (rest.drop (n - 1)) with
      | .error e => .error e
      | .ok tokens =>
        .ok (if isSkipped piece then tokens else ⟨String.ofList piece, p⟩ :: tokens)
termination_by text.length
decreasing_by simp only [List.length_drop, List.length_cons]; omega

def tokenize (text : String) : Except SyntaxError (List Token) :=
  scan ⟨1, 1⟩ none text.toList

end WireSchema.Source
