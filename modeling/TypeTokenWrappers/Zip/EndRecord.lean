import TypeTokenWrappers.Zip.Record

/-! # End records

An archive is read from its end: an end record tells where the directory is.
Data may stand in front of the archive, so all positions may be shifted by its
length; where the directory is found tells by how much. An end record whose
numbers are too large for it sends on to a wider one in front of it. -/

namespace TypeTokenWrappers.Zip

structure EndRecord where
  offset : Nat
  disk : Nat
  directoryDisk : Nat
  entriesOnDisk : Nat
  entries : Nat
  directoryOffset : Nat

def endRecordSize : Nat := 22

def endRecord? (file : List UInt8) (offset : Nat) : Option EndRecord := do
  let record ← record? file offset endRecordSize endSignature
  guard (offset + endRecordSize + number record 20 2 ≤ file.length)
  return {
    offset
    disk := number record 4 2
    directoryDisk := number record 6 2
    entriesOnDisk := number record 8 2
    entries := number record 10 2
    directoryOffset := number record 16 4 }

/-- Where an end record leads: a directory of `count` descriptions from `start` on,
in an archive whose positions are all shifted. -/
structure Lead where
  start : Nat
  shift : Nat
  count : Nat

/-- The first description behind the stated offset begins the directory. An archive
without entries needs none, and ends where its end record begins. -/
def narrowLead? (file : List UInt8) (record : EndRecord) : Option Lead := do
  guard (record.disk = record.directoryDisk)
  let lead (shift : Nat) : Lead := ⟨record.directoryOffset + shift, shift, record.entriesOnDisk⟩
  if record.entries = 0 then return lead (record.offset - record.directoryOffset)
  else
    let start ← (offsetsBetween file directorySignature record.directoryOffset record.offset).head?
    return lead (start - record.directoryOffset)

/-! A locator right in front of the end record leads to the wide one. -/

structure Locator where
  offset : Nat
  directoryDisk : Nat
  recordOffset : Nat
  disks : Nat

def locatorSize : Nat := 20

def locator? (file : List UInt8) (record : EndRecord) : Option Locator := do
  guard (record.entries = tooLargeForTwo ∨ record.directoryOffset = tooLargeForFour)
  guard (locatorSize ≤ record.offset)
  let offset := record.offset - locatorSize
  let locator ← record? file offset locatorSize locatorSignature
  return {
    offset
    directoryDisk := number locator 4 4
    recordOffset := number locator 8 8
    disks := number locator 16 4 }

structure WideEndRecord where
  writtenBy : Nat
  neededBy : Nat
  disk : Nat
  directoryDisk : Nat
  entriesOnDisk : Nat
  entries : Nat
  directoryOffset : Nat

def wideEndRecordSize : Nat := 56

/-- The number of bytes of a record that its stated size leaves out. -/
def uncountedSize : Nat := 12

def descriptionSize : Nat := 46

/-- The wide end record at an offset. It has to reach up to its locator and agree
with it, and the directory has to fit in front of it. -/
def wideEndRecord? (file : List UInt8) (locator : Locator) (offset : Nat) :
    Option WideEndRecord := do
  let record ← record? file offset wideEndRecordSize wideEndSignature
  let size := number record 4 8 + uncountedSize
  guard (wideEndRecordSize ≤ size ∧ offset + size = locator.offset)
  let wide : WideEndRecord := {
    writtenBy := number record 12 2
    neededBy := number record 14 2
    disk := number record 16 4
    directoryDisk := number record 20 4
    entriesOnDisk := number record 24 8
    entries := number record 32 8
    directoryOffset := number record 48 8 }
  guard (wide.directoryDisk = locator.directoryDisk)
  guard (wide.directoryOffset + descriptionSize * wide.entries ≤ offset)
  return wide

def wideLead? (file : List UInt8) (locator : Locator) : Option Lead := do
  guard (locator.recordOffset < locator.offset ∧ locator.disks ≤ 1)
  let offsets := offsetsBetween file wideEndSignature locator.recordOffset locator.offset
  let (offset, wide) ← offsets.findSome? fun offset =>
    (wideEndRecord? file locator offset).map fun wide => (offset, wide)
  guard (wide.entriesOnDisk ≤ wide.entries ∧ wide.neededBy ≤ wide.writtenBy)
  guard (wide.disk = wide.directoryDisk)
  let shift := offset - locator.recordOffset
  return ⟨wide.directoryOffset + shift, shift, wide.entries⟩

def lead? (file : List UInt8) (record : EndRecord) : Option Lead :=
  match locator? file record with
  | some locator => wideLead? file locator
  | none => narrowLead? file record

end TypeTokenWrappers.Zip
