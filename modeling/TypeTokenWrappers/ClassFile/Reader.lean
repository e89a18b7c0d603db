import TypeTokenWrappers.ClassFile.Basic
import TypeTokenWrappers.ClassFile.ConstantPool

/-! # Reading class files

The file is read once from front to back. A number of the constant pool is
looked up as soon as it has been read, so of several faults the first in the
file is reported. Fields are passed over; so is every attribute but the generic
signature. Bytes behind the class are not looked at. -/

namespace TypeTokenWrappers

namespace ClassFile

def magic : UInt32 := 0xCAFEBABE

def readMagic : ByteReader Unit := do
  let found ← ByteReader.u4
  unless found = magic do ByteReader.failAt (.badMagic found) 0

def skipAttribute : ByteReader Unit := do
  ByteReader.skip 2
  let length ← ByteReader.u4
  ByteReader.skip length.toNat

def skipField : ByteReader Unit := do
  ByteReader.skip 6
  let _ ← ByteReader.table skipAttribute

/-- Reads an attribute, and the generic signature if it is that. An attribute
of that name with any other length is passed over. -/
def readAttribute (pool : ConstantPool) : ByteReader (Option String) := do
  let nameIndex ← ByteReader.u2
  let name ← pool.text nameIndex
  let length ← ByteReader.u4
  if name = "Signature" ∧ length = 2 then
    let index ← ByteReader.u2
    return some (← pool.text index)
  else
    ByteReader.skip length.toNat
    return none

/-- The last generic signature among the attributes counts. -/
def readSignature (pool : ConstantPool) : ByteReader (Option String) := do
  let attributes ← ByteReader.table (readAttribute pool)
  return (attributes.filterMap id).getLast?

def readClassName (pool : ConstantPool) : ByteReader String := do
  let index ← ByteReader.u2
  pool.className index

def readSuperName (pool : ConstantPool) : ByteReader (Option String) := do
  let index ← ByteReader.u2
  if index = 0 then return none
  return some (← pool.className index)

def readText (pool : ConstantPool) : ByteReader String := do
  let index ← ByteReader.u2
  pool.text index

def readMethod (pool : ConstantPool) : ByteReader CompiledMethod := do
  let access ← ByteReader.u2
  let name ← readText pool
  let descriptor ← readText pool
  let signature ← readSignature pool
  return { access, name, descriptor, signature }

def readClass : ByteReader CompiledClass := do
  readMagic
  let minorVersion ← ByteReader.u2
  let majorVersion ← ByteReader.u2
  let pool ← readConstantPool
  let access ← ByteReader.u2
  let name ← readClassName pool
  let superName ← readSuperName pool
  let interfaces ← ByteReader.table (readClassName pool)
  let _ ← ByteReader.table skipField
  let methods ← ByteReader.table (readMethod pool)
  let signature ← readSignature pool
  return {
    header := { majorVersion, minorVersion, access, name, signature, superName, interfaces }
    methods }

end ClassFile

def CompiledClass.ofBytes (bytes : List UInt8) : Except ClassFormatError CompiledClass :=
  (ClassFile.readClass.run ⟨bytes, 0⟩).map Prod.fst

end TypeTokenWrappers
