import TypeTokenWrappers.Text.Utf16
import TypeTokenWrappers.Text.Utf8

/-! # Modified UTF-8

Class files write texts unit by unit from their UTF-16 form: U+0000 takes two
bytes, and a character above U+FFFF two groups of three bytes, one for each
surrogate. Tools also write plain UTF-8, so a constant is first read as that. -/

namespace TypeTokenWrappers.ModifiedUtf8

def encodeUnit (unit : UInt16) : List UInt8 :=
  let value := unit.toNat
  if value ≠ 0 ∧ value < 0x80 then [UInt8.ofNat value]
  else if value < 0x800 then
    [UInt8.ofNat (0xC0 + value / 0x40), UInt8.ofNat (0x80 + value % 0x40)]
  else
    [UInt8.ofNat (0xE0 + value / 0x1000), UInt8.ofNat (0x80 + value / 0x40 % 0x40),
      UInt8.ofNat (0x80 + value % 0x40)]

def encodeUnits (units : List UInt16) : List UInt8 :=
  units.flatMap encodeUnit

def encode (text : List Char) : List UInt8 :=
  encodeUnits (Utf16.encode text)

/-- Reads groups of one, two and three bytes as units. A group is recognised by
its first byte alone, so overlong groups are read too. -/
def units? : List UInt8 → Option (List UInt16)
  | [] => some []
  | lead :: rest =>
    if lead &&& 0x80 == 0 then (units? rest).map (lead.toUInt16 :: ·)
    else match rest with
      | [] => none
      | second :: rest =>
        if lead &&& 0xE0 == 0xC0 then
          if Utf8.isContinuation second then
            (units? rest).map
              (UInt16.ofNat ((lead &&& 0x1F).toNat * 0x40 + Utf8.payload second) :: ·)
          else none
        else match rest with
          | [] => none
          | third :: rest =>
            if lead &&& 0xF0 == 0xE0 && Utf8.isContinuation second &&
                Utf8.isContinuation third then
              (units? rest).map
                (UInt16.ofNat ((lead &&& 0x0F).toNat * 0x1000 + Utf8.payload second * 0x40 +
                  Utf8.payload third) :: ·)
            else none

def decodeUnits? (bytes : List UInt8) : Option (List Char) :=
  (units? bytes).bind Utf16.decode?

/-- Reads a constant: plain UTF-8 where it is that, modified UTF-8 otherwise. -/
def decode? (bytes : List UInt8) : Option (List Char) :=
  match Utf8.decode? bytes with
  | some text => some text
  | none => decodeUnits? bytes

example : decode? [0xC0, 0x80] = some ['\x00'] := by decide
example : decode? [0xED, 0xA0, 0xBD, 0xED, 0xB8, 0x80] = some ['😀'] := by decide
example : decode? [0xED, 0xA0, 0xBD] = none := by decide

end TypeTokenWrappers.ModifiedUtf8
