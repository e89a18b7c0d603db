/-! # UTF-16

A text as a sequence of sixteen-bit units: characters above U+FFFF take a pair
of surrogates, all others take one unit. A sequence with a surrogate that has
no partner spells no text. -/

namespace TypeTokenWrappers.Utf16

def isHighSurrogate (unit : UInt16) : Bool :=
  0xD800 ≤ unit && unit ≤ 0xDBFF

def isLowSurrogate (unit : UInt16) : Bool :=
  0xDC00 ≤ unit && unit ≤ 0xDFFF

def charOfPair (high low : UInt16) : Char :=
  Char.ofNat (0x10000 + (high.toNat - 0xD800) * 0x400 + (low.toNat - 0xDC00))

def encodeChar (char : Char) : List UInt16 :=
  if char.toNat < 0x10000 then [UInt16.ofNat char.toNat]
  else
    let offset := char.toNat - 0x10000
    [UInt16.ofNat (0xD800 + offset / 0x400), UInt16.ofNat (0xDC00 + offset % 0x400)]

def encode (text : List Char) : List UInt16 :=
  text.flatMap encodeChar

def decode? : List UInt16 → Option (List Char)
  | [] => some []
  | unit :: rest =>
    if isHighSurrogate unit then
      match rest with
      | low :: rest =>
        if isLowSurrogate low then (decode? rest).map (charOfPair unit low :: ·) else none
      | [] => none
    else if isLowSurrogate unit then none
    else (decode? rest).map (Char.ofNat unit.toNat :: ·)

example : encode ['😀'] = [0xD83D, 0xDE00] := by decide
example : decode? [0xD83D, 0xDE00] = some ['😀'] := by decide
example : decode? [0xDE00, 0xD83D] = none := by decide

end TypeTokenWrappers.Utf16
