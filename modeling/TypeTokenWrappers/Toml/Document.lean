import TypeTokenWrappers.Toml.Reader

/-! # TOML documents

Entries in front of the first header belong to the root table, the others to
the table that the header above them names. -/

namespace TypeTokenWrappers.Toml

inductive Header where
  | table (key : Key)
  /-- A header in doubled brackets, which begins a further table of a list. -/
  | repeated (key : Key)

structure Section where
  header : Header
  pairs : List (List String × String × Value)

def readEntries (text : List Char) :
    Option (Taken (List (List String × String × Value)) (text.length + 1)) := do
  let filler ← skipFiller false text
  match filler.rest with
  | [] => return filler.map fun _ => []
  | '[' :: _ => return filler.map fun _ => []
  | _ =>
    let key ← readKey filler.rest
    match sign : key.rest with
    | '=' :: assigned =>
      let blank := skipBlanks assigned
      let value ← readValue maximalDepth blank.rest
      let pair := (key.value.path, key.value.name, value.value)
      let written := filler.maybeThen (key.optional.nextMaybe sign (blank.maybeThen value).optional)
      let lineEnd ← readLineEnd written.rest
      let others ← readEntries lineEnd.rest
      return (written.andMaybe (lineEnd.andMaybe (others.map (pair :: ·)))).optional
    | _ => none
termination_by text.length
decreasing_by
  have := written.shorter
  have := lineEnd.shorter
  omega

def readHeader (text : List Char) : Option (Taken Header text.length) :=
  match text with
  | '[' :: '[' :: rest => do
    let key ← readKey (skipBlanks rest).rest
    match ahead : key.rest with
    | ']' :: ']' :: after =>
      let lineEnd ← readLineEnd after
      let closed := key.optional.nextMaybe ahead (lineEnd.map fun _ => .repeated key.value).optional
      return (((skipBlanks rest).andThen closed).behindMaybe '[').behind '['
    | _ => none
  | '[' :: rest => do
    let key ← readKey (skipBlanks rest).rest
    match ahead : key.rest with
    | ']' :: after =>
      let lineEnd ← readLineEnd after
      let closed := key.optional.nextMaybe ahead (lineEnd.map fun _ => .table key.value)
      return ((skipBlanks rest).andThen closed).behindMaybe '['
    | _ => none
  | _ => none

def readSections (text : List Char) : Option (List Section) :=
  match text with
  | [] => some []
  | first :: rest => do
    let header ← readHeader (first :: rest)
    let pairs ← readEntries header.rest
    let others ← readSections pairs.rest
    return ⟨header.value, pairs.value⟩ :: others
termination_by text.length
decreasing_by
  have := header.shorter
  have := pairs.shorter
  omega

def Section.addTo (root : Entries) (part : Section) : Option Entries :=
  match part.header with
  | .table key => root.openTable key.path key.name part.pairs
  | .repeated key => root.appendTable key.path key.name part.pairs

def byteOrderMark : Char := Char.ofNat 0xFEFF

def dropByteOrderMark : List Char → List Char
  | char :: rest => if char = byteOrderMark then rest else char :: rest
  | [] => []

def parse? (text : String) : Option (List (String × Value)) := do
  let entries ← readEntries (dropByteOrderMark text.toList)
  let sections ← readSections entries.rest
  let root ← Entries.insertAll [] entries.value
  let root ← sections.foldlM Section.addTo root
  return entriesToValues root

end TypeTokenWrappers.Toml
