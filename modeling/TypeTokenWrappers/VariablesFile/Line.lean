import TypeTokenWrappers.Text.Alphanumeric

/-! # Lines of a variables file

A variables file sets one variable a line: `KEY=value`, possibly behind
`export`. Values may be quoted, have escapes, and refer to other variables by
`$NAME` or by a name in braces. -/

namespace TypeTokenWrappers

namespace Blank

/-- Whether a character has the property White_Space. -/
def isBlank (char : Char) : Bool :=
  let code := char.toNat
  (0x09 ≤ code && code ≤ 0x0D) || code == 0x20 || code == 0x85 || code == 0xA0 ||
    code == 0x1680 || (0x2000 ≤ code && code ≤ 0x200A) || code == 0x2028 || code == 0x2029 ||
    code == 0x202F || code == 0x205F || code == 0x3000

def trimEnd (text : List Char) : List Char :=
  (text.reverse.dropWhile isBlank).reverse

def trimStart (text : List Char) : List Char :=
  text.dropWhile isBlank

end Blank

namespace VariablesFile

inductive Piece where
  | literal (char : Char)
  | reference (name : String)
deriving DecidableEq, Repr

inductive Line where
  | blank
  | assignment (key : String) (value : List Piece)
  | malformed
deriving DecidableEq, Repr

inductive Mode where
  | plain
  | strong
  | weak
  | reference (quoted : Bool) (name : List Char)
  | braced (quoted : Bool) (name : List Char)
  /-- Behind a blank that ended the value. -/
  | ended

def escaped? : Char → Option Char
  | '\\' => some '\\'
  | '\'' => some '\''
  | '"' => some '"'
  | '$' => some '$'
  | ' ' => some ' '
  | 'n' => some '\n'
  | _ => none

def around (quoted : Bool) : Mode :=
  if quoted then .weak else .plain

/-- Reads a value. A character that ends a reference stands for itself, even a
quote. A backslash at the very end stands for nothing. -/
def readValue (mode : Mode) : List Char → Option (List Piece)
  | [] =>
    match mode with
    | .plain | .ended => some []
    | .reference false name => some [.reference (String.ofList name)]
    | .strong | .weak | .reference true _ | .braced _ _ => none
  | char :: rest =>
    match mode with
    | .ended =>
      if char = ' ' ∨ char = '\t' then readValue .ended rest
      else if char = '#' then some []
      else none
    | .strong =>
      if char = '\'' then readValue .plain rest
      else (readValue .strong rest).map (.literal char :: ·)
    | .reference quoted name =>
      if Alphanumeric.isAlphanumeric char then
        readValue (.reference quoted (name ++ [char])) rest
      else if char = '\x7b' ∧ name = [] then readValue (.braced quoted []) rest
      else if char = '$' then
        (readValue (.reference quoted []) rest).map (.reference (String.ofList name) :: ·)
      else
        (readValue (around quoted) rest).map
          fun pieces => .reference (String.ofList name) :: .literal char :: pieces
    | .braced quoted name =>
      if char = '\x7d' then
        (readValue (around quoted) rest).map (.reference (String.ofList name) :: ·)
      else readValue (.braced quoted (name ++ [char])) rest
    | .weak | .plain =>
      let quoted := match mode with
        | .weak => true
        | _ => false
      if char = '$' then readValue (.reference quoted []) rest
      else if char = '\\' then
        match rest with
        | [] => if quoted then none else some []
        | next :: rest =>
          match escaped? next with
          | some meant => (readValue mode rest).map (.literal meant :: ·)
          | none => none
      else if char = '"' then readValue (around !quoted) rest
      else if quoted then (readValue .weak rest).map (.literal char :: ·)
      else if char = '\'' then readValue .strong rest
      else if char = ' ' ∨ char = '\t' then readValue .ended rest
      else (readValue .plain rest).map (.literal char :: ·)

def beginsKey (char : Char) : Bool :=
  char.isAlpha || char == '_'

def isKeyChar (char : Char) : Bool :=
  char.isAlphanum || char == '_' || char == '.'

def readKey (text : List Char) : Option (String × List Char) :=
  match text with
  | first :: rest =>
    if beginsKey first then
      some (String.ofList (first :: rest.takeWhile isKeyChar),
        Blank.trimStart (rest.dropWhile isKeyChar))
    else none
  | [] => none

/-- Reads a key and the sign behind it. A key `export` may also stand in front
of the real one. -/
def readAssignee (text : List Char) : Option (String × List Char) := do
  let (key, rest) ← readKey text
  match rest with
  | '=' :: rest => return (key, rest)
  | _ =>
    if key = "export" then do
      let (key, rest) ← readKey rest
      match rest with
      | '=' :: rest => return (key, rest)
      | _ => none
    else none

def Line.ofText (line : List Char) : Line :=
  match Blank.trimStart (Blank.trimEnd line) with
  | [] => .blank
  | '#' :: _ => .blank
  | text =>
    match readAssignee text with
    | none => .malformed
    | some (key, rest) =>
      match Blank.trimStart rest with
      | [] => .assignment key []
      | '#' :: _ => .assignment key []
      | value =>
        match readValue .plain value with
        | some pieces => .assignment key pieces
        | none => .malformed

end VariablesFile

end TypeTokenWrappers
