/-! # UTF-8 over lists

Texts are lists of characters and files are lists of bytes. `encode` writes a
text, `decode?` reads the bytes that `encode` can produce and no others, and
`decodeLossy` reads any bytes, putting U+FFFD for each longest broken piece. -/

namespace TypeTokenWrappers.Utf8

def encode (text : List Char) : List UInt8 :=
  text.flatMap String.utf8EncodeChar

def byteLength : (text : List Char) → Nat
  | [] => 0
  | char :: rest => char.utf8Size + byteLength rest

def isContinuation (byte : UInt8) : Bool :=
  byte &&& 0xC0 == 0x80

def payload (byte : UInt8) : Nat :=
  (byte &&& 0x3F).toNat

/-! The second byte of a three- or four-byte group is restricted further, so
that no character has two encodings and no surrogate or value above U+10FFFF
is encoded. -/

def opensTwo (lead : UInt8) : Bool :=
  0xC2 ≤ lead && lead ≤ 0xDF

def opensThree (lead second : UInt8) : Bool :=
  isContinuation second &&
    (lead == 0xE0 && 0xA0 ≤ second ||
      0xE1 ≤ lead && lead ≤ 0xEC ||
      lead == 0xED && second ≤ 0x9F ||
      0xEE ≤ lead && lead ≤ 0xEF)

def opensFour (lead second : UInt8) : Bool :=
  isContinuation second &&
    (lead == 0xF0 && 0x90 ≤ second ||
      0xF1 ≤ lead && lead ≤ 0xF3 ||
      lead == 0xF4 && second ≤ 0x8F)

def charOfOne (lead : UInt8) : Char :=
  Char.ofNat lead.toNat

def charOfTwo (lead second : UInt8) : Char :=
  Char.ofNat ((lead &&& 0x1F).toNat * 0x40 + payload second)

def charOfThree (lead second third : UInt8) : Char :=
  Char.ofNat ((lead &&& 0x0F).toNat * 0x1000 + payload second * 0x40 + payload third)

def charOfFour (lead second third fourth : UInt8) : Char :=
  Char.ofNat ((lead &&& 0x07).toNat * 0x40000 + payload second * 0x1000 +
    payload third * 0x40 + payload fourth)

def decode? : List UInt8 → Option (List Char)
  | [] => some []
  | lead :: rest =>
    if lead < 0x80 then (decode? rest).map (charOfOne lead :: ·)
    else match rest with
      | [] => none
      | second :: rest =>
        if opensTwo lead && isContinuation second then
          (decode? rest).map (charOfTwo lead second :: ·)
        else match rest with
          | [] => none
          | third :: rest =>
            if opensThree lead second && isContinuation third then
              (decode? rest).map (charOfThree lead second third :: ·)
            else match rest with
              | [] => none
              | fourth :: rest =>
                if opensFour lead second && isContinuation third && isContinuation fourth then
                  (decode? rest).map (charOfFour lead second third fourth :: ·)
                else none

def replacement : Char := Char.ofNat 0xFFFD

/-- Reads any bytes. A group that breaks off is replaced as far as it was a
beginning of some character, and reading goes on right behind it. -/
def decodeLossy : List UInt8 → List Char
  | [] => []
  | lead :: rest =>
    if lead < 0x80 then charOfOne lead :: decodeLossy rest
    else match rest with
      | [] => [replacement]
      | second :: rest =>
        if opensTwo lead && isContinuation second then
          charOfTwo lead second :: decodeLossy rest
        else if opensThree lead second then
          match rest with
          | [] => [replacement]
          | third :: rest =>
            if isContinuation third then charOfThree lead second third :: decodeLossy rest
            else replacement :: decodeLossy (third :: rest)
        else if opensFour lead second then
          match rest with
          | [] => [replacement]
          | third :: rest =>
            if isContinuation third then
              match rest with
              | [] => [replacement]
              | fourth :: rest =>
                if isContinuation fourth then
                  charOfFour lead second third fourth :: decodeLossy rest
                else replacement :: decodeLossy (fourth :: rest)
            else replacement :: decodeLossy (third :: rest)
        else replacement :: decodeLossy (second :: rest)
termination_by bytes => bytes.length

def encodeString (text : String) : List UInt8 :=
  encode text.toList

def decodeString? (bytes : List UInt8) : Option String :=
  (decode? bytes).map String.ofList

example : decode? [0xE2, 0x82, 0xAC] = some ['€'] := by decide
example : decode? [0xC0, 0x80] = none := by decide
example : decode? [0xED, 0xA0, 0x80] = none := by decide
example : encode ['a', '😀'] = [0x61, 0xF0, 0x9F, 0x98, 0x80] := by decide

end TypeTokenWrappers.Utf8
