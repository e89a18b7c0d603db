/-! # Records of an archive

An archive consists of records at known offsets. Each begins with a signature
of its kind and holds numbers of fixed sizes, the lowest byte first. -/

namespace TypeTokenWrappers

/-! The checksum of data and of replaced texts: the remainder, lowest bit first,
modulo the polynomial 0x04C11DB7 with its bits reversed. -/

namespace Crc32

def polynomial : UInt32 := 0xEDB88320

def bitStep (remainder : UInt32) : UInt32 :=
  if remainder &&& 1 = 1 then (remainder >>> 1) ^^^ polynomial else remainder >>> 1

def bitSteps : Nat → UInt32 → UInt32
  | 0, remainder => remainder
  | count + 1, remainder => bitSteps count (bitStep remainder)

def byteStep (remainder : UInt32) (byte : UInt8) : UInt32 :=
  bitSteps 8 (remainder ^^^ byte.toUInt32)

def checksum (bytes : List UInt8) : UInt32 :=
  bytes.foldl byteStep 0xFFFFFFFF ^^^ 0xFFFFFFFF

example : checksum ("123456789".toList.map fun char => char.toNat.toUInt8) = 0xCBF43926 := by
  decide +kernel

end Crc32

namespace Zip

def littleEndian (bytes : List UInt8) : Nat :=
  bytes.foldr (fun byte value => byte.toNat + 256 * value) 0

def number (record : List UInt8) (offset size : Nat) : Nat :=
  littleEndian ((record.drop offset).take size)

/-- A record of fixed size, if it lies within the file and begins as it should. -/
def record? (file : List UInt8) (offset size : Nat) (signature : List UInt8) :
    Option (List UInt8) :=
  let record := (file.drop offset).take size
  if record.length = size && signature.isPrefixOf record then some record else none

def localSignature : List UInt8 := [0x50, 0x4B, 0x03, 0x04]

def directorySignature : List UInt8 := [0x50, 0x4B, 0x01, 0x02]

def endSignature : List UInt8 := [0x50, 0x4B, 0x05, 0x06]

def wideEndSignature : List UInt8 := [0x50, 0x4B, 0x06, 0x06]

def locatorSignature : List UInt8 := [0x50, 0x4B, 0x06, 0x07]

def offsetsOf (signature : List UInt8) (offset : Nat) : (bytes : List UInt8) → List Nat
  | [] => []
  | byte :: rest =>
    if signature.isPrefixOf (byte :: rest) then offset :: offsetsOf signature (offset + 1) rest
    else offsetsOf signature (offset + 1) rest

def offsetsBetween (file signature : List UInt8) (first last : Nat) : List Nat :=
  offsetsOf signature first ((file.take last).drop first)

/-- The number of two bytes that stands for one that does not fit. -/
def tooLargeForTwo : Nat := 0xFFFF

def tooLargeForFour : Nat := 0xFFFFFFFF

end Zip

end TypeTokenWrappers
