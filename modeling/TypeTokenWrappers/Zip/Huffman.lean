/-! # Canonical Huffman codes

A code is given by the lengths of its words alone: shorter words come first,
and words of one length follow the order of their symbols. -/

namespace TypeTokenWrappers

abbrev Bits := List Bool

namespace Bits

def ofBytes (bytes : List UInt8) : Bits :=
  bytes.flatMap fun byte => (List.range 8).map fun index => byte.toNat.testBit index

def number? : (count : Nat) → Bits → Option (Nat × Bits)
  | 0, bits => some (0, bits)
  | _ + 1, [] => none
  | count + 1, bit :: bits => do
    let (higher, rest) ← number? count bits
    return (bit.toNat + 2 * higher, rest)

end Bits

/-- A code: how many words there are of each length from 1 on, and the symbols
in the order of their words. -/
structure HuffmanCode where
  counts : List Nat
  symbols : Array Nat

namespace HuffmanCode

def maximalLength : Nat := 15

def spaceTaken (lengths : List Nat) : Nat :=
  lengths.foldl
    (fun taken length => if length = 0 then taken else taken + Nat.pow 2 (maximalLength - length)) 0

/-- The code of the symbols with these word lengths; length 0 stands for a
symbol without a word. -/
def ofLengths (lengths : List Nat) : HuffmanCode :=
  let indexed := lengths.zipIdx
  let ofLength (length : Nat) := (indexed.filter (·.1 = length)).map (·.2)
  let groups := (List.range maximalLength).map fun index => ofLength (index + 1)
  ⟨groups.map List.length, groups.flatten.toArray⟩

def areFull (lengths : List Nat) : Bool :=
  spaceTaken lengths = Nat.pow 2 maximalLength

def areScant (lengths : List Nat) : Bool :=
  let used := lengths.filter (· != 0)
  used == [] || used == [1]

def full? (lengths : List Nat) : Option HuffmanCode :=
  if areFull lengths then some (ofLengths lengths) else none

def fullOrScant? (lengths : List Nat) : Option HuffmanCode :=
  if areFull lengths || areScant lengths then some (ofLengths lengths) else none

/-- Reads one word bit by bit. `first` is the first word of the length reached,
and `index` the number of all shorter words. -/
def decodeFrom (code : HuffmanCode) (word first index : Nat) :
    (counts : List Nat) → Bits → Option (Nat × Bits)
  | count :: counts, bit :: bits =>
    let word := 2 * word + bit.toNat
    let first := 2 * first
    if word < first + count then
      (code.symbols[index + (word - first)]?).map (·, bits)
    else code.decodeFrom word (first + count) (index + count) counts bits
  | _, _ => none

def decode? (code : HuffmanCode) (bits : Bits) : Option (Nat × Bits) :=
  code.decodeFrom 0 0 0 code.counts bits

end HuffmanCode

end TypeTokenWrappers
