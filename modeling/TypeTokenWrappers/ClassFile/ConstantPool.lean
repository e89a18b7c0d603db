import TypeTokenWrappers.ClassFile.ByteReader
import TypeTokenWrappers.ClassFile.ModifiedUtf8

/-! # The constant pool

The pool numbers its constants from 1. A constant of eight bytes takes two
numbers, the second of which names nothing. Only texts and class references are
kept; of the other constants only the size matters. -/

namespace TypeTokenWrappers.ClassFile

inductive ConstantShape where
  | text
  | classReference
  | plain (size : Nat)
  /-- Eight bytes, and two numbers of the pool. -/
  | wide
deriving DecidableEq, Repr

def ConstantShape.ofTag? : UInt8 → Option ConstantShape
  | 1 => some .text
  | 7 => some .classReference
  | 3 | 4 => some (.plain 4)
  | 5 | 6 => some .wide
  | 8 | 16 | 19 | 20 => some (.plain 2)
  | 15 => some (.plain 3)
  | 9 | 10 | 11 | 12 | 17 | 18 => some (.plain 4)
  | _ => none

inductive Constant where
  | text (value : String)
  | classReference (nameIndex : UInt16)
  | other
deriving DecidableEq, Repr

/-- The constants by their number; a number that names nothing holds `none`. -/
abbrev ConstantPool := List (Option Constant)

def readConstant : ByteReader (Constant × Bool) := do
  let start ← ByteReader.offset
  let tag ← ByteReader.u1
  match ConstantShape.ofTag? tag with
  | none => ByteReader.failAt (.invalidTag tag) start
  | some .text =>
    let length ← ByteReader.u2
    let bytes ← ByteReader.take length.toNat
    match ModifiedUtf8.decode? bytes with
    | none => ByteReader.failAt .invalidText start
    | some text => return (.text (String.ofList text), false)
  | some .classReference => return (.classReference (← ByteReader.u2), false)
  | some (.plain size) =>
    ByteReader.skip size
    return (.other, false)
  | some .wide =>
    ByteReader.skip 8
    return (.other, true)

/-- Fills `remaining` numbers. `second` tells that the next one belongs to the
constant just read; it may be one number too many, which is then dropped. -/
def readConstants (second : Bool) : (remaining : Nat) → ByteReader ConstantPool
  | 0 => return []
  | remaining + 1 =>
    if second then do
      let others ← readConstants false remaining
      return none :: others
    else do
      let (constant, wide) ← readConstant
      let others ← readConstants wide remaining
      return some constant :: others

/-- Reads the pool. The count in front of it is one more than the last number. -/
def readConstantPool : ByteReader ConstantPool := do
  let count ← ByteReader.u2
  let constants ← readConstants false (count.toNat - 1)
  return none :: constants

namespace ConstantPool

def text? (pool : ConstantPool) (index : UInt16) : Option String :=
  match pool[index.toNat]? with
  | some (some (.text value)) => some value
  | _ => none

def classNameIndex? (pool : ConstantPool) (index : UInt16) : Option UInt16 :=
  match pool[index.toNat]? with
  | some (some (.classReference nameIndex)) => some nameIndex
  | _ => none

def text (pool : ConstantPool) (index : UInt16) : ByteReader String :=
  match pool.text? index with
  | some value => return value
  | none => ByteReader.fail (.notText index)

def className (pool : ConstantPool) (index : UInt16) : ByteReader String :=
  match pool.classNameIndex? index with
  | some nameIndex => pool.text nameIndex
  | none => ByteReader.fail (.notClass index)

end ConstantPool

end TypeTokenWrappers.ClassFile
