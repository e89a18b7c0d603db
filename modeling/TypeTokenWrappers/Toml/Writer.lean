import TypeTokenWrappers.Text.Pieces

/-! # Writing TOML strings

Of the five written forms of a string the first that fits is used: a plain
basic string, a literal string, the multi-line forms of both, and at last a
basic string with escapes. -/

namespace TypeTokenWrappers.Toml

def isControl (char : Char) : Bool :=
  (char.toNat < 0x20 || char.toNat == 0x7F) && char != '\t'

def hasRun (char : Char) (count : Nat) : List Char → Bool
  | [] => count = 0
  | first :: rest => (List.replicate count char).isPrefixOf (first :: rest) || hasRun char count rest

inductive StringForm where
  | basic
  | literal
  | multilineBasic
  | multilineLiteral
deriving DecidableEq, Repr

namespace StringForm

def fitsBasic (text : List Char) : Bool :=
  text.all fun char => char != '"' && char != '\\' && char != '\n' && !isControl char

def fitsLiteral (text : List Char) : Bool :=
  text.all fun char => char != '\'' && char != '\n' && !isControl char

def fitsMultilineBasic (text : List Char) : Bool :=
  !hasRun '"' 3 text && text.all fun char => char != '\\' && (char == '\n' || !isControl char)

def fitsMultilineLiteral (text : List Char) : Bool :=
  !hasRun '\'' 3 text && text.all fun char => char == '\n' || !isControl char

def choose (text : List Char) : StringForm :=
  if fitsBasic text then .basic
  else if fitsLiteral text then .literal
  else if fitsMultilineBasic text then .multilineBasic
  else if fitsMultilineLiteral text then .multilineLiteral
  else if text.contains '\n' then .multilineBasic
  else .basic

end StringForm

def codeDigits (char : Char) : List Char :=
  let digits := (Nat.toDigits 16 char.toNat).map Char.toUpper
  List.replicate (4 - digits.length) '0' ++ digits

def escapeChar (char : Char) : List Char :=
  match char with
  | '\x08' => ['\\', 'b']
  | '\t' => ['\\', 't']
  | '\x0c' => ['\\', 'f']
  | '\r' => ['\\', 'r']
  | '\\' => ['\\', '\\']
  | _ => if isControl char then '\\' :: 'u' :: codeDigits char else [char]

def basicBody (text : List Char) : List Char :=
  text.flatMap fun char =>
    match char with
    | '"' => ['\\', '"']
    | '\n' => ['\\', 'n']
    | _ => escapeChar char

/-- Between tripled quotes a newline stands for itself, and of a run of quotes
every third one is escaped. `run` quotes stand directly in front. -/
def multilineBody (run : Nat) : List Char → List Char
  | [] => []
  | '"' :: rest =>
    if run = 2 then '\\' :: '"' :: multilineBody 0 rest else '"' :: multilineBody (run + 1) rest
  | '\n' :: rest => '\n' :: multilineBody 0 rest
  | char :: rest => escapeChar char ++ multilineBody 0 rest

/-- A text with newlines begins on a line of its own. -/
def firstNewline (text : List Char) : List Char :=
  if text.contains '\n' then ['\n'] else []

def quoteString (text : List Char) : List Char :=
  match StringForm.choose text with
  | .basic => '"' :: basicBody text ++ ['"']
  | .literal => '\'' :: text ++ ['\'']
  | .multilineBasic =>
    ['"', '"', '"'] ++ firstNewline text ++ multilineBody 0 text ++ ['"', '"', '"']
  | .multilineLiteral =>
    ['\'', '\'', '\''] ++ firstNewline text ++ text ++ ['\'', '\'', '\'']

def quoteArray (items : List String) : List Char :=
  '[' :: [',', ' '].intercalate (items.map fun item => quoteString item.toList) ++ [']']

end TypeTokenWrappers.Toml
