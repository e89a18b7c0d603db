import TypeTokenWrappers.Toml.Scalar
import TypeTokenWrappers.Toml.Table

/-! # Reading TOML documents

A document is a sequence of lines: entries, and headers under which the entries
that follow are filed. Values may be nested up to a fixed depth. A document
that breaks the grammar or defines something twice is refused as a whole. -/

namespace TypeTokenWrappers.Toml

/-- Passes over blanks, line ends and comments. `comment` tells that a comment
has begun. -/
def skipFiller (comment : Bool) : (text : List Char) → Option (Taken Unit (text.length + 1))
  | [] => some (.nothing () [])
  | '\r' :: '\n' :: rest => do
    let skipped ← skipFiller false rest
    return ((skipped.behindMaybe '\n').behind '\r').optional
  | char :: rest =>
    if char == '\n' || (!comment && (char == ' ' || char == '\t')) then do
      let skipped ← skipFiller false rest
      return (skipped.behindMaybe char).optional
    else if comment then
      if isPlain char then do
        let skipped ← skipFiller true rest
        return (skipped.behindMaybe char).optional
      else none
    else if char == '#' then do
      let skipped ← skipFiller true rest
      return (skipped.behindMaybe char).optional
    else some (.nothing () (char :: rest))

def skipBlanks : (text : List Char) → Taken Unit (text.length + 1)
  | [] => .nothing () []
  | char :: rest =>
    if char == ' ' || char == '\t' then ((skipBlanks rest).behindMaybe char).optional
    else .nothing () (char :: rest)

def readLineEnd (text : List Char) : Option (Taken Unit (text.length + 1)) :=
  let blank := skipBlanks text
  match ahead : blank.rest with
  | [] => some blank
  | '\n' :: _ => some (blank.next ahead ()).optional
  | '\r' :: '\n' :: rest => some (blank.nextMaybe ahead (Taken.one () '\n' rest).optional).optional
  | '#' :: rest => do
    let skipped ← skipFiller true rest
    return (blank.nextMaybe ahead skipped).optional
  | _ => none

def isBareKeyChar (char : Char) : Bool :=
  char.isAlphanum || char == '_' || char == '-'

def readSimpleKey (text : List Char) : Option (Taken String text.length) :=
  match text with
  | '"' :: rest => do
    let key ← readBasic rest
    return (key.map String.ofList).behind '"'
  | '\'' :: rest => do
    let key ← readLiteral rest
    return (key.map String.ofList).behind '\''
  | other =>
    let key := other.takeWhile isBareKeyChar
    Taken.some? key.length (String.ofList key) other

structure Key where
  path : List String
  name : String

/-- How deeply arrays and inline tables may be nested, and how many parts a key
may have. -/
def maximalDepth : Nat := 80

def readKeyParts (parts : Nat) (text : List Char) : Option (Taken Key text.length) :=
  match parts with
  | 0 => none
  | parts + 1 => do
    let first ← readSimpleKey text
    let blank := skipBlanks first.rest
    match ahead : blank.rest with
    | '.' :: rest =>
      let others ← readKeyParts parts (skipBlanks rest).rest
      let key := others.map fun key => ⟨first.value :: key.path, key.name⟩
      return first.andThen (blank.nextMaybe ahead ((skipBlanks rest).andThen key))
    | _ => return first.andMaybe (blank.map fun _ => ⟨[], first.value⟩)

def readKey (text : List Char) : Option (Taken Key text.length) :=
  readKeyParts maximalDepth text

mutual
def readValue (depth : Nat) (text : List Char) : Option (Taken Value text.length) :=
  match text with
  | [] => none
  | first :: rest =>
    if first == '"' || first == '\'' then do
      let string ← readQuotation (first :: rest)
      return string.map .string
    else if first == '[' then
      match depth with
      | 0 => none
      | depth + 1 => do
        let elements ← readElements depth rest
        return (elements.map .array).behind first
    else if first == '{' then
      match depth with
      | 0 => none
      | depth + 1 => do
        let pairs ← readPairs depth rest
        let entries ← Entries.insertAll [] pairs.value
        return (pairs.map fun _ => .table (entriesToValues entries)).behind first
    else readScalar (first :: rest)
termination_by (depth, text.length, 0)

def readElements (depth : Nat) (text : List Char) :
    Option (Taken (List Value) text.length) := do
  let filler ← skipFiller false text
  match ahead : filler.rest with
  | ']' :: _ => return filler.next ahead []
  | _ =>
    let element ← readValue depth filler.rest
    let behind ← skipFiller false element.rest
    match ahead : behind.rest with
    | ']' :: _ => return filler.maybeThen (element.andThen (behind.next ahead [element.value]))
    | ',' :: rest =>
      let others ← readElements depth rest
      return filler.maybeThen <| element.andThen <| behind.nextMaybe ahead <|
        (others.map (element.value :: ·)).optional
    | _ => none
termination_by (depth, text.length, 1)
decreasing_by
  · have := filler.shorter
    by_cases equal : filler.rest.length = text.length
    · rw [equal]
      exact Prod.Lex.right _ (Prod.Lex.right _ (by omega))
    · exact Prod.Lex.right _ (Prod.Lex.left _ _ (by omega))
  · have := filler.shorter
    have := element.shorter
    have := behind.shorter
    simp only [ahead, List.length_cons] at this
    exact Prod.Lex.right _ (Prod.Lex.left _ _ (by omega))

/-- Reads the entries of an inline table up to and including the closing brace.
Lines may end anywhere in it but inside a key. -/
def readPairs (depth : Nat) (text : List Char) :
    Option (Taken (List (List String × String × Value)) text.length) := do
  let filler ← skipFiller false text
  match ahead : filler.rest with
  | '}' :: _ => return filler.next ahead []
  | _ =>
    let key ← readKey filler.rest
    let afterKey ← skipFiller false key.rest
    let keyed := key.andMaybe afterKey
    match sign : keyed.rest with
    | '=' :: assigned =>
      let beforeValue ← skipFiller false assigned
      let value ← readValue depth beforeValue.rest
      let given := keyed.optional.nextMaybe sign (beforeValue.maybeThen value).optional
      let written := filler.maybeThen given
      let pair := (key.value.path, key.value.name, value.value)
      let behind ← skipFiller false written.rest
      match ahead : behind.rest with
      | '}' :: _ => return written.andThen (behind.next ahead [pair])
      | ',' :: rest =>
        let others ← readPairs depth rest
        return written.andThen (behind.nextMaybe ahead (others.map (pair :: ·)).optional)
      | _ => none
    | _ => none
termination_by (depth, text.length, 1)
decreasing_by
  · have := filler.shorter
    have := keyed.shorter
    have := beforeValue.shorter
    simp only [sign, List.length_cons] at *
    exact Prod.Lex.right _ (Prod.Lex.left _ _ (by omega))
  · have := written.shorter
    have := behind.shorter
    simp only [ahead, List.length_cons] at *
    exact Prod.Lex.right _ (Prod.Lex.left _ _ (by omega))
end

end TypeTokenWrappers.Toml
