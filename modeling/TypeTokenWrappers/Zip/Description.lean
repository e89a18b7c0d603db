import TypeTokenWrappers.Text.Utf8

/-! # Descriptions of entries

The directory of an archive describes each entry: what it is called, how its
data is packed, and where it lies. -/

namespace TypeTokenWrappers

/-! Code page 437, in which names are written when an archive does not say that
they are UTF-8. The lower half is ASCII. -/

namespace CodePage437

def upperHalf : List Char :=
  ['Ç', 'ü', 'é', 'â', 'ä', 'à', 'å', 'ç', 'ê', 'ë', 'è', 'ï', 'î', 'ì', 'Ä', 'Å',
    'É', 'æ', 'Æ', 'ô', 'ö', 'ò', 'û', 'ù', 'ÿ', 'Ö', 'Ü', '¢', '£', '¥', '₧', 'ƒ',
    'á', 'í', 'ó', 'ú', 'ñ', 'Ñ', 'ª', 'º', '¿', '⌐', '¬', '½', '¼', '¡', '«', '»',
    '░', '▒', '▓', '│', '┤', '╡', '╢', '╖', '╕', '╣', '║', '╗', '╝', '╜', '╛', '┐',
    '└', '┴', '┬', '├', '─', '┼', '╞', '╟', '╚', '╔', '╩', '╦', '╠', '═', '╬', '╧',
    '╨', '╤', '╥', '╙', '╘', '╒', '╓', '╫', '╪', '┘', '┌', '█', '▄', '▌', '▐', '▀',
    'α', 'ß', 'Γ', 'π', 'Σ', 'σ', 'µ', 'τ', 'Φ', 'Θ', 'Ω', 'δ', '∞', 'φ', 'ε', '∩',
    '≡', '±', '≥', '≤', '⌠', '⌡', '÷', '≈', '°', '∙', '·', '√', 'ⁿ', '²', '■', '\u00a0']

def charOfByte (byte : UInt8) : Char :=
  if byte < 0x80 then Char.ofNat byte.toNat
  else upperHalf.getD (byte.toNat - 0x80) '?'

def decode (bytes : List UInt8) : List Char :=
  bytes.map charOfByte

example : upperHalf.length = 128 := rfl

end CodePage437

namespace Zip

inductive Method where
  | stored
  | deflated
  | other (number : Nat)
deriving DecidableEq, Repr

def Method.ofNumber : Nat → Method
  | 0 => .stored
  | 8 => .deflated
  | number => .other number

/-- The method that stands in for the real one in strongly encrypted entries. -/
def Method.aes : Method := .other 99

structure Description where
  rawName : List UInt8
  name : String
  /-- A remark on the entry. Nothing but its extra fields depends on it. -/
  comment : String
  encrypted : Bool
  hasKeyInfo : Bool
  method : Method
  checksum : UInt32
  /-- The stated size of the content. It is not relied on. -/
  contentSize : Nat
  dataSize : Nat
  /-- Where the local header begins, counted from the beginning of the archive. -/
  headerOffset : Nat

def decodeText (flags : Nat) (bytes : List UInt8) : String :=
  String.ofList (if flags.testBit 11 then Utf8.decodeLossy bytes else CodePage437.decode bytes)

def Description.isComplete (description : Description) : Bool :=
  description.method != .aes || description.hasKeyInfo

end Zip

end TypeTokenWrappers
