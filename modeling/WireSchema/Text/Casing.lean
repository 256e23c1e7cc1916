import WireSchema.Text.LetterCase

namespace WireSchema.Casing

-- Everything that is neither a letter nor a number separates words. Inside a run of letters and
-- numbers a word ends after a lower-case letter that an upper-case one follows, and before an
-- upper-case letter that stands between an upper-case and a lower-case one.

inductive Mode where
  | start
  | lower
  | upper
deriving DecidableEq

-- `mode` is the case of the letters seen last, and `word` the current word backwards.
def cutRun (mode : Mode) (word : List Char) : List Char → List (List Char)
  | [] => []
  | [c] => [(c :: word).reverse]
  | c :: next :: rest =>
    let mode' :=
      if Text.isLowerCase c then Mode.lower
      else if Text.isUpperCase c then Mode.upper
      else mode
    -- A word ends behind a lower-case letter that a capital follows.
    if mode' = .lower ∧ Text.isUpperCase next then
      (c :: word).reverse :: cutRun .start [] (next :: rest)
    -- Of several capitals, the last one starts the word that goes on in lower case.
    else if mode = .upper ∧ Text.isUpperCase c ∧ Text.isLowerCase next then
      word.reverse :: cutRun .start [c] (next :: rest)
    else cutRun mode' (c :: word) (next :: rest)

def runs (text : List Char) : List (List Char) :=
  text.splitOnP fun c => !Text.isAlphanumeric c

def words (text : String) : List (List Char) :=
  (runs text.toList).flatMap (cutRun .start [])

-- A sigma at the end of a word takes its final form.
def lower : List Char → List Char
  | [] => []
  | [c] => if c = 'Σ' then ['ς'] else Text.toLowerCase c
  | c :: rest => Text.toLowerCase c ++ lower rest

def upper (word : List Char) : List Char :=
  word.flatMap Text.toUpperCase

def capitalized : List Char → List Char
  | [] => []
  | c :: rest => Text.toUpperCase c ++ lower rest

def upperCamel (text : String) : String :=
  String.ofList ((words text).flatMap capitalized)

def snake (text : String) : String :=
  String.ofList (List.intercalate ['_'] ((words text).map lower))

def shoutySnake (text : String) : String :=
  String.ofList (List.intercalate ['_'] ((words text).map upper))

end WireSchema.Casing
