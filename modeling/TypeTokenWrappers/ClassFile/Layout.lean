import TypeTokenWrappers.ClassFile.Basic
import TypeTokenWrappers.ClassFile.ConstantPool

/-! # The layout of class files

A class file as its parts lie in it, with numbers of the constant pool in the
place of names; the bytes that the parts take; and the class that they mean. -/

namespace TypeTokenWrappers.ClassFile

def bytesOfNumber : (count value : Nat) → List UInt8
  | 0, _ => []
  | count + 1, value => bytesOfNumber count (value / 256) ++ [UInt8.ofNat (value % 256)]

def bytesOfTable (bytes : α → List UInt8) (items : List α) : List UInt8 :=
  bytesOfNumber 2 items.length ++ items.flatMap bytes

def bytesOfIndex (index : UInt16) : List UInt8 :=
  bytesOfNumber 2 index.toNat

/-! ## Constants -/

inductive ConstantKind where
  | integer | float | long | double | string
  | fieldReference | methodReference | interfaceMethodReference | nameAndType
  | methodHandle | methodType | dynamic | invokeDynamic | moduleReference | packageReference
deriving DecidableEq, Repr

namespace ConstantKind

def tag : ConstantKind → UInt8
  | integer => 3
  | float => 4
  | long => 5
  | double => 6
  | string => 8
  | fieldReference => 9
  | methodReference => 10
  | interfaceMethodReference => 11
  | nameAndType => 12
  | methodHandle => 15
  | methodType => 16
  | dynamic => 17
  | invokeDynamic => 18
  | moduleReference => 19
  | packageReference => 20

def size : ConstantKind → Nat
  | long | double => 8
  | integer | float | fieldReference | methodReference | interfaceMethodReference
  | nameAndType | dynamic | invokeDynamic => 4
  | methodHandle => 3
  | string | methodType | moduleReference | packageReference => 2

def wide : ConstantKind → Bool
  | long | double => true
  | _ => false

end ConstantKind

inductive RawConstant where
  | text (content : List UInt8)
  | classReference (nameIndex : UInt16)
  | other (kind : ConstantKind) (content : List UInt8)
deriving DecidableEq, Repr

namespace RawConstant

def bytes : RawConstant → List UInt8
  | .text content => 1 :: bytesOfNumber 2 content.length ++ content
  | .classReference nameIndex => 7 :: bytesOfIndex nameIndex
  | .other kind content => kind.tag :: content

def Fits : RawConstant → Prop
  | .text content => content.length < 0x10000
  | .classReference _ => True
  | .other kind content => content.length = kind.size

instance : (constant : RawConstant) → Decidable constant.Fits
  | .text content => inferInstanceAs (Decidable (content.length < 0x10000))
  | .classReference _ => inferInstanceAs (Decidable True)
  | .other kind content => inferInstanceAs (Decidable (content.length = kind.size))

def wide : RawConstant → Bool
  | .other kind _ => kind.wide
  | _ => false

def width (constant : RawConstant) : Nat :=
  if constant.wide then 2 else 1

/-- The numbers that the constant takes: its own, and one that names nothing. -/
def numbers (constant : RawConstant) : List (Option RawConstant) :=
  some constant :: if constant.wide then [none] else []

def text? : RawConstant → Option String
  | .text content => (ModifiedUtf8.decode? content).map String.ofList
  | _ => none

def nameIndex? : RawConstant → Option UInt16
  | .classReference nameIndex => some nameIndex
  | _ => none

def readable : RawConstant → Bool
  | .text content => (ModifiedUtf8.decode? content).isSome
  | _ => true

end RawConstant

/-- The pool by its numbers; 0 names nothing. -/
def numbered (constants : List RawConstant) : List (Option RawConstant) :=
  none :: constants.flatMap RawConstant.numbers

def totalWidth : List RawConstant → Nat
  | [] => 0
  | constant :: constants => constant.width + totalWidth constants

/-- Whether constants fill the numbers from 1 that are below `count`. The second
number of a wide constant at the end may be one too many. -/
def Fill (count : Nat) (constants : List RawConstant) : Prop :=
  totalWidth constants = count - 1 ∨
    totalWidth constants = count - 1 + 1 ∧ constants.getLast?.any RawConstant.wide

instance (count : Nat) (constants : List RawConstant) : Decidable (Fill count constants) :=
  inferInstanceAs (Decidable (_ ∨ _))

/-! ## Parts of a class -/

structure RawAttribute where
  nameIndex : UInt16
  content : List UInt8
deriving DecidableEq, Repr

namespace RawAttribute

def bytes (item : RawAttribute) : List UInt8 :=
  bytesOfIndex item.nameIndex ++ bytesOfNumber 4 item.content.length ++ item.content

def Fits (item : RawAttribute) : Prop :=
  item.content.length < 0x100000000

instance (item : RawAttribute) : Decidable item.Fits :=
  inferInstanceAs (Decidable (_ < _))

end RawAttribute

def AttributesFit (attributes : List RawAttribute) : Prop :=
  attributes.length < 0x10000 ∧ ∀ item ∈ attributes, item.Fits

instance (attributes : List RawAttribute) : Decidable (AttributesFit attributes) :=
  inferInstanceAs (Decidable (_ ∧ _))

structure RawMember where
  access : UInt16
  nameIndex : UInt16
  descriptorIndex : UInt16
  attributes : List RawAttribute
deriving DecidableEq, Repr

namespace RawMember

def bytes (member : RawMember) : List UInt8 :=
  bytesOfIndex member.access ++ bytesOfIndex member.nameIndex ++
    bytesOfIndex member.descriptorIndex ++ bytesOfTable RawAttribute.bytes member.attributes

end RawMember

def MembersFit (members : List RawMember) : Prop :=
  members.length < 0x10000 ∧ ∀ member ∈ members, AttributesFit member.attributes

instance (members : List RawMember) : Decidable (MembersFit members) :=
  inferInstanceAs (Decidable (_ ∧ _))

structure RawClass where
  minorVersion : UInt16
  majorVersion : UInt16
  constantCount : UInt16
  constants : List RawConstant
  access : UInt16
  nameIndex : UInt16
  superIndex : UInt16
  interfaces : List UInt16
  fields : List RawMember
  methods : List RawMember
  attributes : List RawAttribute
deriving DecidableEq, Repr

namespace RawClass

def bytes (raw : RawClass) : List UInt8 :=
  [0xCA, 0xFE, 0xBA, 0xBE] ++ bytesOfIndex raw.minorVersion ++ bytesOfIndex raw.majorVersion ++
    bytesOfIndex raw.constantCount ++ raw.constants.flatMap RawConstant.bytes ++
    bytesOfIndex raw.access ++ bytesOfIndex raw.nameIndex ++ bytesOfIndex raw.superIndex ++
    bytesOfTable bytesOfIndex raw.interfaces ++ bytesOfTable RawMember.bytes raw.fields ++
    bytesOfTable RawMember.bytes raw.methods ++ bytesOfTable RawAttribute.bytes raw.attributes

/-- Whether every part is as long as the number in front of it says. -/
structure Fits (raw : RawClass) : Prop where
  constants : ∀ constant ∈ raw.constants, constant.Fits
  count : Fill raw.constantCount.toNat raw.constants
  interfaces : raw.interfaces.length < 0x10000
  fields : MembersFit raw.fields
  methods : MembersFit raw.methods
  attributes : AttributesFit raw.attributes

instance (raw : RawClass) : Decidable raw.Fits :=
  decidable_of_iff ((∀ constant ∈ raw.constants, constant.Fits) ∧
      Fill raw.constantCount.toNat raw.constants ∧ raw.interfaces.length < 0x10000 ∧
      MembersFit raw.fields ∧ MembersFit raw.methods ∧ AttributesFit raw.attributes)
    ⟨fun ⟨constants, count, interfaces, fields, methods, attributes⟩ =>
      ⟨constants, count, interfaces, fields, methods, attributes⟩,
    fun ⟨constants, count, interfaces, fields, methods, attributes⟩ =>
      ⟨constants, count, interfaces, fields, methods, attributes⟩⟩

end RawClass

/-! ## What the parts mean -/

def signatureOf? (text? : UInt16 → Option String) (name : String) (content : List UInt8) :
    Option (Option String) :=
  if name = "Signature" ∧ content.length = 2 then
    (text? (UInt16.ofNat (ByteReader.bigEndian content))).map some
  else some none

/-- The generic signature that an attribute holds, if it is one. The name of an
attribute has to be a text in any case. -/
def RawAttribute.signature? (text? : UInt16 → Option String) (item : RawAttribute) :
    Option (Option String) := do
  let name ← text? item.nameIndex
  signatureOf? text? name item.content

def lastSignature? (text? : UInt16 → Option String) (attributes : List RawAttribute) :
    Option (Option String) := do
  let signatures ← attributes.mapM (RawAttribute.signature? text?)
  return (signatures.filterMap id).getLast?

def RawMember.method? (text? : UInt16 → Option String) (member : RawMember) :
    Option CompiledMethod := do
  let name ← text? member.nameIndex
  let descriptor ← text? member.descriptorIndex
  let signature ← lastSignature? text? member.attributes
  return { access := member.access, name, descriptor, signature }

def superName? (className? : UInt16 → Option String) (index : UInt16) :
    Option (Option String) :=
  if index = 0 then some none else (className? index).map some

namespace RawClass

def constant? (raw : RawClass) (index : UInt16) : Option RawConstant :=
  (numbered raw.constants)[index.toNat]?.join

def text? (raw : RawClass) (index : UInt16) : Option String :=
  (raw.constant? index).bind RawConstant.text?

def className? (raw : RawClass) (index : UInt16) : Option String :=
  ((raw.constant? index).bind RawConstant.nameIndex?).bind raw.text?

/-- The class that the parts mean, if each number names what it has to name and
every text of the pool can be read. -/
def compiled? (raw : RawClass) : Option CompiledClass := do
  guard (raw.constants.all RawConstant.readable)
  let name ← raw.className? raw.nameIndex
  let superName ← superName? raw.className? raw.superIndex
  let interfaces ← raw.interfaces.mapM raw.className?
  let methods ← raw.methods.mapM (RawMember.method? raw.text?)
  let signature ← lastSignature? raw.text? raw.attributes
  return {
    header := {
      majorVersion := raw.majorVersion
      minorVersion := raw.minorVersion
      access := raw.access
      name, signature, superName, interfaces }
    methods }

end RawClass

end TypeTokenWrappers.ClassFile
