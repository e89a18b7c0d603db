/-! # Reading bytes in order

A reader of a class file takes bytes from the front of what is left and knows
its offset from the beginning. It fails with a cause and an offset; taking more
bytes than are left fails at the offset where the taking began. -/

namespace TypeTokenWrappers

namespace ClassFile

inductive Fault where
  | unexpectedEnd
  | badMagic (found : UInt32)
  | invalidText
  | invalidTag (tag : UInt8)
  | notText (index : UInt16)
  | notClass (index : UInt16)
deriving DecidableEq, Repr

def hexadecimal (value : UInt32) : String :=
  let digits := Nat.toDigits 16 value.toNat
  String.ofList (List.replicate (8 - digits.length) '0' ++ digits)

def Fault.message : Fault → String
  | .unexpectedEnd => "unexpected end of class file"
  | .badMagic found => s!"bad magic number 0x{hexadecimal found}"
  | .invalidText => "invalid modified UTF-8 constant"
  | .invalidTag tag => s!"invalid constant pool tag {tag.toNat}"
  | .notText index => s!"constant #{index.toNat} is not a Utf8 entry"
  | .notClass index => s!"constant #{index.toNat} is not a Class entry"

end ClassFile

structure ClassFormatError where
  fault : ClassFile.Fault
  offset : Nat
deriving DecidableEq, Repr

def ClassFormatError.message (error : ClassFormatError) : String :=
  s!"{error.fault.message} at offset {error.offset}"

namespace ClassFile

structure Cursor where
  rest : List UInt8
  offset : Nat
deriving DecidableEq, Repr

abbrev ByteReader := StateT Cursor (Except ClassFormatError)

namespace ByteReader

def failAt (fault : Fault) (offset : Nat) : ByteReader α :=
  fun _ => .error ⟨fault, offset⟩

def fail (fault : Fault) : ByteReader α :=
  fun cursor => .error ⟨fault, cursor.offset⟩

def offset : ByteReader Nat :=
  fun cursor => .ok (cursor.offset, cursor)

def take (count : Nat) : ByteReader (List UInt8) := fun cursor =>
  let bytes := cursor.rest.take count
  if bytes.length = count then
    .ok (bytes, ⟨cursor.rest.drop count, cursor.offset + count⟩)
  else .error ⟨.unexpectedEnd, cursor.offset⟩

def skip (count : Nat) : ByteReader Unit := do
  let _ ← take count

def bigEndian (bytes : List UInt8) : Nat :=
  bytes.foldl (fun value byte => value * 256 + byte.toNat) 0

def u1 : ByteReader UInt8 :=
  return UInt8.ofNat (bigEndian (← take 1))

def u2 : ByteReader UInt16 :=
  return UInt16.ofNat (bigEndian (← take 2))

def u4 : ByteReader UInt32 :=
  return UInt32.ofNat (bigEndian (← take 4))

def times (count : Nat) (item : ByteReader α) : ByteReader (List α) :=
  match count with
  | 0 => return []
  | remaining + 1 => do
    let first ← item
    let others ← times remaining item
    return first :: others

/-- Reads a table: a count of two bytes and that many items. -/
def table (item : ByteReader α) : ByteReader (List α) := do
  let count ← u2
  times count.toNat item

end ByteReader

end ClassFile

end TypeTokenWrappers
