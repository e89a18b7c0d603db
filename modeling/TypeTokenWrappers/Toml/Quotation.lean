import TypeTokenWrappers.Text.Taken

/-! # Strings in TOML

Four kinds of quotation: basic strings have escapes, literal strings do not, and
both may run over several lines between tripled quotes. The readers here begin
behind the opening quotes and end behind the closing ones. -/

namespace TypeTokenWrappers.Toml

/-- Control characters, the tab excepted, never stand in a document. -/
def isPlain (char : Char) : Bool :=
  char == '\t' || (0x20 ≤ char.toNat && char.toNat != 0x7F)

def hexDigit? (char : Char) : Option Nat :=
  if '0' ≤ char ∧ char ≤ '9' then some (char.toNat - '0'.toNat)
  else if 'a' ≤ char ∧ char ≤ 'f' then some (char.toNat - 'a'.toNat + 10)
  else if 'A' ≤ char ∧ char ≤ 'F' then some (char.toNat - 'A'.toNat + 10)
  else none

def hexValue? (digits : List Char) : Option Nat :=
  digits.foldlM (fun value digit => (hexDigit? digit).map (value * 16 + ·)) 0

def charOfNat? (code : Nat) : Option Char :=
  if code.isValidChar then some (Char.ofNat code) else none

def readCodePoint (count : Nat) (text : List Char) : Option (Taken Char (text.length + 1)) :=
  if (text.take count).length = count then do
    let char ← (hexValue? (text.take count)).bind charOfNat?
    return .upTo count char text
  else none

def readEscape (text : List Char) : Option (Taken Char text.length) :=
  match text with
  | [] => none
  | letter :: rest =>
    match letter with
    | 'b' => some (.one '\x08' letter rest)
    | 't' => some (.one '\t' letter rest)
    | 'n' => some (.one '\n' letter rest)
    | 'f' => some (.one '\x0c' letter rest)
    | 'r' => some (.one '\r' letter rest)
    | 'e' => some (.one '\x1b' letter rest)
    | '"' => some (.one '"' letter rest)
    | '\\' => some (.one '\\' letter rest)
    | 'x' => (readCodePoint 2 rest).map (.behindMaybe letter)
    | 'u' => (readCodePoint 4 rest).map (.behindMaybe letter)
    | 'U' => (readCodePoint 8 rest).map (.behindMaybe letter)
    | _ => none

def readBasic (text : List Char) : Option (Taken (List Char) text.length) :=
  match text with
  | [] => none
  | '"' :: rest => some (.one [] '"' rest)
  | '\\' :: rest => do
    let char ← readEscape rest
    let others ← readBasic char.rest
    return (char.andThen (others.map (char.value :: ·))).behind '\\'
  | char :: rest =>
    if isPlain char then do
      let others ← readBasic rest
      return (others.map (char :: ·)).behind char
    else none
termination_by text.length
decreasing_by
  · exact Nat.lt_succ_of_lt char.shorter
  · exact Nat.lt_succ_self _

def readLiteral : (text : List Char) → Option (Taken (List Char) text.length)
  | [] => none
  | '\'' :: rest => some (.one [] '\'' rest)
  | char :: rest =>
    if isPlain char then do
      let others ← readLiteral rest
      return (others.map (char :: ·)).behind char
    else none

/-! A multi-line string may hold line ends. One right behind the opening quotes
is dropped. Up to two quotes may touch the closing ones. -/

def dropFirstNewline : (text : List Char) → Taken Unit (text.length + 1)
  | '\n' :: rest => (Taken.one () '\n' rest).optional
  | '\r' :: '\n' :: rest => ((Taken.one () '\n' rest).behind '\r').optional
  | text => .nothing () text

/-- Quotes in front of the closing three belong to the string. `text` is what
follows the first three quotes of the run. -/
def closeMultiline (quote : Char) (text : List Char) : Taken (List Char) (text.length + 1) :=
  match text with
  | first :: second :: rest =>
    if first = quote then
      if second = quote then ((Taken.one [quote, quote] second rest).behind first).optional
      else (Taken.one [quote] first (second :: rest)).optional
    else .nothing [] (first :: second :: rest)
  | [first] => if first = quote then (Taken.one [quote] first []).optional else .nothing [] [first]
  | [] => .nothing [] []

def dropBlankLines : (text : List Char) → Taken Unit (text.length + 1)
  | '\r' :: '\n' :: rest => (((dropBlankLines rest).behindMaybe '\n').behind '\r').optional
  | char :: rest =>
    if char = ' ' ∨ char = '\t' ∨ char = '\n' then ((dropBlankLines rest).behindMaybe char).optional
    else .nothing () (char :: rest)
  | [] => .nothing () []

/-- Passes over what follows a backslash that ends its line: blanks, the line
end, and all blanks and line ends behind it. -/
def continueLine? : (text : List Char) → Option (Taken Unit text.length)
  | '\n' :: rest => some ((dropBlankLines rest).behindMaybe '\n')
  | '\r' :: '\n' :: rest => some (((dropBlankLines rest).behindMaybe '\n').behind '\r')
  | char :: rest =>
    if char = ' ' ∨ char = '\t' then (continueLine? rest).map (.behind char) else none
  | [] => none

def readMultilineBasic (text : List Char) : Option (Taken (List Char) text.length) :=
  match text with
  | [] => none
  | '"' :: '"' :: '"' :: rest =>
    some ((((closeMultiline '"' rest).behindMaybe '"').behind '"').behind '"')
  | '\\' :: rest =>
    match continueLine? rest with
    | some next => do
      let others ← readMultilineBasic next.rest
      return (next.andThen others).behind '\\'
    | none => do
      let char ← readEscape rest
      let others ← readMultilineBasic char.rest
      return (char.andThen (others.map (char.value :: ·))).behind '\\'
  | '\r' :: '\n' :: rest => do
    let others ← readMultilineBasic rest
    return ((others.map ('\r' :: '\n' :: ·)).behind '\n').behind '\r'
  | char :: rest =>
    if isPlain char || char == '\n' then do
      let others ← readMultilineBasic rest
      return (others.map (char :: ·)).behind char
    else none
termination_by text.length
decreasing_by
  · exact Nat.lt_succ_of_lt next.shorter
  · exact Nat.lt_succ_of_lt char.shorter
  · exact Nat.lt_succ_of_lt (Nat.lt_succ_self _)
  · exact Nat.lt_succ_self _

def readMultilineLiteral : (text : List Char) → Option (Taken (List Char) text.length)
  | [] => none
  | '\'' :: '\'' :: '\'' :: rest =>
    some ((((closeMultiline '\'' rest).behindMaybe '\'').behind '\'').behind '\'')
  | '\r' :: '\n' :: rest => do
    let others ← readMultilineLiteral rest
    return ((others.map ('\r' :: '\n' :: ·)).behind '\n').behind '\r'
  | char :: rest =>
    if isPlain char || char == '\n' then do
      let others ← readMultilineLiteral rest
      return (others.map (char :: ·)).behind char
    else none

def readQuotation (text : List Char) : Option (Taken String text.length) :=
  match text with
  | '"' :: '"' :: '"' :: rest => do
    let start := dropFirstNewline rest
    let string ← readMultilineBasic start.rest
    let taken := start.andThen (string.map String.ofList)
    return ((taken.behindMaybe '"').behind '"').behind '"'
  | '\'' :: '\'' :: '\'' :: rest => do
    let start := dropFirstNewline rest
    let string ← readMultilineLiteral start.rest
    let taken := start.andThen (string.map String.ofList)
    return ((taken.behindMaybe '\'').behind '\'').behind '\''
  | '"' :: rest => do
    let string ← readBasic rest
    return (string.map String.ofList).behind '"'
  | '\'' :: rest => do
    let string ← readLiteral rest
    return (string.map String.ofList).behind '\''
  | _ => none

end TypeTokenWrappers.Toml
