import TypeTokenWrappers.Zip.EndRecord
import TypeTokenWrappers.Zip.ExtraField
import TypeTokenWrappers.Zip.Inflate

/-! # ZIP archives

The directory of an archive lists its entries. It tells name, size and checksum
of each, and where its local header lies, behind which the data begins. Of
several possible end records the last that leads to a readable directory counts.
The directory can be read even where the entries cannot. -/

namespace TypeTokenWrappers.Zip

structure Entry where
  name : String
  encrypted : Bool
  method : Method
  checksum : UInt32
  /-- The data as it lies in the file. It is missing where there is no local header. -/
  data : Option (List UInt8)

def description? (file : List UInt8) (offset : Nat) : Option (Description × Nat) := do
  let record ← record? file offset descriptionSize directorySignature
  let flags := number record 8 2
  let nameLength := number record 28 2
  let fieldsLength := number record 30 2
  let commentLength := number record 32 2
  let following := nameLength + fieldsLength + commentLength
  let rest := file.drop (offset + descriptionSize)
  guard ((rest.take following).length = following)
  let written : Description := {
    rawName := rest.take nameLength
    name := decodeText flags (rest.take nameLength)
    comment := decodeText flags ((rest.drop (nameLength + fieldsLength)).take commentLength)
    encrypted := flags.testBit 0
    hasKeyInfo := false
    method := Method.ofNumber (number record 10 2)
    checksum := UInt32.ofNat (number record 16 4)
    contentSize := number record 24 4
    dataSize := number record 20 4
    headerOffset := number record 42 4 }
  let description ← written.corrected? ((rest.drop nameLength).take fieldsLength)
  guard description.isComplete
  return (description, offset + descriptionSize + following)

def localHeaderSize : Nat := 30

/-- The data behind a local header. It may be shorter than stated where the file ends. -/
def data? (file : List UInt8) (offset size : Nat) : Option (List UInt8) := do
  let header ← record? file offset localHeaderSize localSignature
  let start := offset + localHeaderSize + number header 26 2 + number header 28 2
  return (file.drop start).take size

/-- The entry of a description. Its local header has to be in front of the directory. -/
def entry? (file : List UInt8) (lead : Lead) (description : Description) : Option Entry := do
  let offset := description.headerOffset + lead.shift
  guard (offset < lead.start)
  return {
    name := description.name
    encrypted := description.encrypted || description.hasKeyInfo
    method := description.method
    checksum := description.checksum
    data := data? file offset description.dataSize }

def entries? (file : List UInt8) (lead : Lead) : (count offset : Nat) → Option (List Entry)
  | 0, _ => some []
  | count + 1, offset => do
    let (description, next) ← description? file offset
    let entry ← entry? file lead description
    let others ← entries? file lead count next
    return entry :: others

/-- A repeated name keeps its first place and its last data. -/
def putEntry (entry : Entry) : List Entry → List Entry
  | [] => [entry]
  | other :: others =>
    if other.name = entry.name then entry :: others else other :: putEntry entry others

def directory? (file : List UInt8) (record : EndRecord) : Option (List Entry) := do
  let lead ← lead? file record
  let entries ← entries? file lead lead.count lead.start
  return entries.foldl (fun kept entry => putEntry entry kept) []

def open? (file : List UInt8) : Option (List Entry) :=
  (offsetsOf endSignature 0 file).reverse.findSome? fun offset =>
    (endRecord? file offset).bind (directory? file)

def Entry.readable? (entry : Entry) : Option (List UInt8) :=
  if entry.encrypted then none
  else match entry.method with
    | .other _ => none
    | _ => entry.data

def Entry.content? (entry : Entry) (data : List UInt8) : Option (List UInt8) := do
  let content ← match entry.method with
    | .deflated => Inflate.inflate? data
    | _ => some data
  guard (Crc32.checksum content = entry.checksum)
  return content

end TypeTokenWrappers.Zip
