import TypeTokenWrappers.Text.Pieces

/-! # Paths

A path is a text with `/` between its components. Repeated separators and `.`
components mean nothing, except that a path may begin with `.`; and nothing is
looked up, so `..` stays as it is. Functions that give back a part of a path
keep its spelling. -/

namespace TypeTokenWrappers.Path

inductive Component where
  | root
  | here
  | parent
  | name (name : String)
deriving DecidableEq, Repr

def splitHead (path : List Char) : List Char × List Char :=
  match path with
  | '/' :: rest => (['/'], rest)
  | ['.'] => (['.'], [])
  | '.' :: '/' :: rest => (['.'], '/' :: rest)
  | other => ([], other)

def significant (piece : List Char) : Bool :=
  piece != [] && piece != ['.']

def reversedPieces (path : List Char) : List (List Char) :=
  (Pieces.cut '/' (splitHead path).2).reverse

def componentOfPiece (piece : List Char) : Component :=
  if piece = ['.', '.'] then .parent else .name (String.ofList piece)

/-- The components of a path. Two paths are the same if their components are. -/
def components (path : String) : List Component :=
  let (head, body) := splitHead path.toList
  let beginning : List Component :=
    match head with
    | ['/'] => [.root]
    | ['.'] => [.here]
    | _ => []
  beginning ++ ((Pieces.cut '/' body).filter significant).map componentOfPiece

def isAbsolute (path : String) : Bool :=
  path.toList.head? == some '/'

/-- The last component, unless it is `..` or there is none. -/
def fileName? (path : String) : Option String :=
  match (reversedPieces path.toList).dropWhile (!significant ·) with
  | [] => none
  | piece :: _ => if piece = ['.', '.'] then none else some (String.ofList piece)

/-- What follows the last dot of the file name; a dot in front does not count. -/
def extension? (path : String) : Option String := do
  let name ← fileName? path
  match (Pieces.cut '.' name.toList).reverse with
  | [] | [_] => none
  | [_, []] => none
  | extension :: _ => some (String.ofList extension)

/-- The paths left when one component after the other is taken from the end.
`pieces` are those behind `head`, the last one first. -/
def shortened (head : List Char) : (pieces : List (List Char)) → List (List Char)
  | [] => if head = ['.'] then [[]] else []
  | piece :: front =>
    if significant piece then
      (head ++ Pieces.join '/' (front.dropWhile (!significant ·)).reverse) :: shortened head front
    else shortened head front

/-- The paths above this one, the nearest first. A relative path ends with the
empty path. -/
def parents (path : String) : List String :=
  (shortened (splitHead path.toList).1 (reversedPieces path.toList)).map String.ofList

def parent? (path : String) : Option String :=
  (parents path).head?

def ancestors (path : String) : List String :=
  path :: parents path

/-- The path of `path` as seen from `base`. An absolute path stays as it is. -/
def join (base path : String) : String :=
  if isAbsolute path then path
  else if base = "" || base.toList.getLast? = some '/' then base ++ path
  else base ++ "/" ++ path

def withNameBeginning (beginning : String) (paths : List String) : List String :=
  paths.filter fun path =>
    (fileName? path).any fun name => beginning.toList.isPrefixOf name.toList

end TypeTokenWrappers.Path
