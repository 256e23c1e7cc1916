namespace WireSchema.Path

-- Nothing here looks at files: `.` and `..` are names like others, except that a path is taken
-- apart without its empty and its inner `.` pieces.

inductive Component where
  | root
  | current
  | parent
  | normal (name : String)
deriving DecidableEq, Repr

def Component.text : Component → String
  | root => "/"
  | current => "."
  | parent => ".."
  | normal name => name

def pieces (text : List Char) : List String :=
  (text.splitOn '/').map String.ofList

def isAbsolute (path : String) : Bool :=
  path.toList.head? == some '/'

def isIdle (piece : String) : Bool :=
  piece.isEmpty || piece == "."

def bodyComponent? (piece : String) : Option Component :=
  if isIdle piece then none else if piece == ".." then some .parent else some (.normal piece)

def split (path : String) : List Char × List Char :=
  match path.toList with
  | '/' :: rest => (['/'], rest)
  | ['.'] => (['.'], [])
  | '.' :: '/' :: rest => (['.'], '/' :: rest)
  | text => ([], text)

def components (path : String) : List Component :=
  let (start, body) := split path
  (match start with
    | ['/'] => [.root]
    | ['.'] => [.current]
    | _ => []) ++ (pieces body).filterMap bodyComponent?

def dropIdle (pieces : List String) : List String :=
  (pieces.reverse.dropWhile isIdle).reverse

def parent? (path : String) : Option String :=
  let (start, body) := split path
  match dropIdle (pieces body) with
  | [] => if start = ['.'] then some "" else none
  | named => some (String.ofList start ++ "/".intercalate (dropIdle named.dropLast))

def fileName? (path : String) : Option String :=
  match (components path).getLast? with
  | some (.normal name) => some name
  | _ => none

def extension? (path : String) : Option String := do
  let name ← fileName? path
  let stem := (name.toList.reverse.dropWhile (· != '.')).drop 1
  if stem.isEmpty then none
  else some (String.ofList (name.toList.reverse.takeWhile (· != '.')).reverse)

def join (directory path : String) : String :=
  if isAbsolute path || directory.isEmpty then path
  else if directory.toList.getLast? == some '/' then directory ++ path
  else directory ++ "/" ++ path

def withSlashes (path : String) : String :=
  path.map fun c => if c = '\\' then '/' else c

def plainComponents (path : String) : List Component :=
  (components path).filter (· != .current)

def commonLength : List Component → List Component → Nat
  | a :: as, b :: bs => if a = b then commonLength as bs + 1 else 0
  | _, _ => 0

def relative (source target : String) : String :=
  let up := plainComponents source
  let down := plainComponents target
  let common := commonLength up down
  (List.replicate (up.length - common) ".." ++ (down.drop common).map Component.text).foldl join ""

end WireSchema.Path
