import TypeTokenWrappers.Zip.Record
import TypeTokenWrappers.Zip.Description

/-! # Extra fields

A description may carry extra fields, some of which correct it: they hold numbers
that were too large for it, or name and comment in UTF-8. Fields of known kinds have
to be well formed, or the archive cannot be read. A field that breaks off is no
fault: it ends the fields, and what was corrected before stays so. -/

namespace TypeTokenWrappers.Zip

inductive FieldStop where
  | brokenOff
  | malformed
deriving DecidableEq, Repr

structure FieldState where
  description : Description
  rest : List UInt8

abbrev FieldReader := ExceptT FieldStop (StateM FieldState)

namespace FieldReader

def take (count : Nat) : FieldReader (List UInt8) := do
  let state ← get
  let bytes := state.rest.take count
  unless bytes.length = count do throw .brokenOff
  set { state with rest := state.rest.drop count }
  return bytes

def skip (count : Nat) : FieldReader Unit := do
  let _ ← take count

def takeNumber (size : Nat) : FieldReader Nat :=
  return littleEndian (← take size)

def demand (condition : Bool) : FieldReader Unit :=
  unless condition do throw .malformed

def description : FieldReader Description :=
  return (← get).description

def correct (change : Description → Description) : FieldReader Unit :=
  modify fun state => { state with description := change state.description }

end FieldReader

open FieldReader

namespace ExtraField

/-- From this length on a field of wide numbers holds all of them. -/
def allWideNumbers : Nat := 24

/-- Corrects one number by the next eight bytes of a field of wide numbers, if the
field holds all of them or the number did not fit. Gives the number of bytes taken. -/
def readWideNumber (length narrow : Nat) (change : Nat → Description → Description) :
    FieldReader Nat := do
  if length ≥ allWideNumbers || narrow = tooLargeForFour then
    let wide ← takeNumber 8
    correct (change wide)
    return 8
  else return 0

def readWideNumbers (length : Nat) : FieldReader Unit := do
  let first ← readWideNumber length (← description).contentSize
    fun wide description => { description with contentSize := wide }
  let second ← readWideNumber length (← description).dataSize
    fun wide description => { description with dataSize := wide }
  let third ← readWideNumber length (← description).headerOffset
    fun wide description => { description with headerOffset := wide }
  let taken := first + second + third
  demand (taken ≤ length)
  skip (length - taken)

def readFileTimes (length : Nat) : FieldReader Unit := do
  demand (length = 32)
  skip 4
  let tag ← takeNumber 2
  demand (tag = 1)
  let size ← takeNumber 2
  demand (size = 24)
  skip 24

/-- Three bits tell which times follow; in a field with one time they may also tell
of times that stand elsewhere. -/
def readTimestamps (length : Nat) : FieldReader Unit := do
  let flags ← takeNumber 1
  let told := (List.range 8).countP fun bit => flags.testBit bit
  demand (length = 5 || length = 1 + 4 * told)
  demand (flags < 8)
  skip (length - 1)

def readKeyInfo (length : Nat) : FieldReader Unit := do
  demand (length = 7)
  let version ← takeNumber 2
  let vendor ← takeNumber 2
  let strength ← takeNumber 1
  let method ← takeNumber 2
  demand (vendor = 0x4541)
  demand (version = 1 || version = 2)
  demand (1 ≤ strength && strength ≤ 3)
  correct fun description =>
    { description with method := Method.ofNumber method, hasKeyInfo := true }

/-- A text in UTF-8, behind the checksum of the text that it stands for. -/
def readText (length : Nat) (earlier : List UInt8) : FieldReader (List UInt8 × List Char) := do
  skip 1
  let checksum ← takeNumber 4
  demand (length ≥ 5)
  let bytes ← take (length - 5)
  demand (Crc32.checksum earlier = UInt32.ofNat checksum)
  match Utf8.decode? bytes with
  | some text => return (bytes, text)
  | none => throw .malformed

def readName (length : Nat) : FieldReader Unit := do
  let (bytes, text) ← readText length (← description).rawName
  correct fun description => { description with rawName := bytes, name := String.ofList text }

def readComment (length : Nat) : FieldReader Unit := do
  let (_, text) ← readText length (Utf8.encodeString (← description).comment)
  correct fun description => { description with comment := String.ofList text }

def read : FieldReader Unit := do
  let kind ← takeNumber 2
  let length ← takeNumber 2
  match kind with
  | 0x0001 => readWideNumbers length
  | 0x000A => readFileTimes length
  | 0x5455 => readTimestamps length
  | 0x6375 => readComment length
  | 0x7075 => readName length
  | 0x9901 => readKeyInfo length
  | _ => skip length

def readAll : (steps : Nat) → FieldReader Unit
  | 0 => return ()
  | steps + 1 => do
    unless (← get).rest.isEmpty do
      read
      readAll steps

end ExtraField

/-- A description with the corrections of its extra fields. Each field takes four
bytes at least, so as many steps as there are bytes are enough. -/
def Description.corrected? (description : Description) (fields : List UInt8) :
    Option Description :=
  match (ExtraField.readAll fields.length).run.run ⟨description, fields⟩ with
  | (.error .malformed, _) => none
  | (_, state) => some state.description

end TypeTokenWrappers.Zip
