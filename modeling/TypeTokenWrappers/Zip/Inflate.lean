import TypeTokenWrappers.Zip.Huffman

/-! # Inflating

Deflated data is a sequence of blocks: stored bytes, or symbols in one of two
kinds of Huffman codes. As if zeros had been written before the beginning, a
distance may reach behind it. What follows the last block is ignored. -/

namespace TypeTokenWrappers.Inflate

def lengthTable : List (Nat × Nat) :=
  [(3, 0), (4, 0), (5, 0), (6, 0), (7, 0), (8, 0), (9, 0), (10, 0), (11, 1), (13, 1), (15, 1),
    (17, 1), (19, 2), (23, 2), (27, 2), (31, 2), (35, 3), (43, 3), (51, 3), (59, 3), (67, 4),
    (83, 4), (99, 4), (115, 4), (131, 5), (163, 5), (195, 5), (227, 5), (258, 0)]

def distanceTable : List (Nat × Nat) :=
  [(1, 0), (2, 0), (3, 0), (4, 0), (5, 1), (7, 1), (9, 2), (13, 2), (17, 3), (25, 3), (33, 4),
    (49, 4), (65, 5), (97, 5), (129, 6), (193, 6), (257, 7), (385, 7), (513, 8), (769, 8),
    (1025, 9), (1537, 9), (2049, 10), (3073, 10), (4097, 11), (6145, 11), (8193, 12),
    (12289, 12), (16385, 13), (24577, 13)]

def tableValue? (table : List (Nat × Nat)) (symbol : Nat) (bits : Bits) : Option (Nat × Bits) := do
  let (base, extra) ← table[symbol]?
  let (offset, rest) ← bits.number? extra
  return (base + offset, rest)

def repeatBack (distance : Nat) : (length : Nat) → Array UInt8 → Array UInt8
  | 0, output => output
  | length + 1, output =>
    let byte := if distance ≤ output.size then output.getD (output.size - distance) 0 else 0
    repeatBack distance length (output.push byte)

/-- Reads the symbols of a block. Each takes a bit at least, so as many steps
as there are bits are enough. -/
def symbols (literals distances : HuffmanCode) :
    (steps : Nat) → Array UInt8 → Bits → Option (Array UInt8 × Bits)
  | 0, _, _ => none
  | steps + 1, output, bits =>
    match literals.decode? bits with
    | none => none
    | some (symbol, bits) =>
      if symbol < 256 then symbols literals distances steps (output.push (UInt8.ofNat symbol)) bits
      else if symbol = 256 then some (output, bits)
      else
        match tableValue? lengthTable (symbol - 257) bits with
        | none => none
        | some (length, bits) =>
          match (distances.decode? bits).bind fun (symbol, bits) =>
              tableValue? distanceTable symbol bits with
          | none => none
          | some (distance, bits) =>
            symbols literals distances steps (repeatBack distance length output) bits

/-- Stored bytes begin at the next whole byte, with their number and its complement. -/
def stored? (output : Array UInt8) (bits : Bits) : Option (Array UInt8 × Bits) := do
  let (length, bits) ← Bits.number? 16 (bits.drop (bits.length % 8))
  let (complement, bits) ← bits.number? 16
  guard (length + complement = 0xFFFF)
  let rec bytes : Nat → Array UInt8 → Bits → Option (Array UInt8 × Bits)
    | 0, output, bits => some (output, bits)
    | count + 1, output, bits =>
      match bits.number? 8 with
      | none => none
      | some (byte, bits) => bytes count (output.push (UInt8.ofNat byte)) bits
  bytes length output bits

def fixedLiterals : List Nat :=
  List.replicate 144 8 ++ List.replicate 112 9 ++ List.replicate 24 7 ++ List.replicate 8 8

def fixedDistances : List Nat :=
  List.replicate 32 5

def lengthOrder : List Nat :=
  [16, 17, 18, 0, 8, 7, 9, 6, 10, 5, 11, 4, 12, 3, 13, 2, 14, 1, 15]

def smallNumbers? : (count size : Nat) → Bits → Option (List Nat × Bits)
  | 0, _, bits => some ([], bits)
  | count + 1, size, bits => do
    let (first, bits) ← bits.number? size
    let (others, bits) ← smallNumbers? count size bits
    return (first :: others, bits)

/-- Reads word lengths until there are `count`; symbols above 15 repeat. Each
step adds a length at least. -/
def wordLengths? (code : HuffmanCode) (count : Nat) :
    (steps : Nat) → (lengths : List Nat) → Bits → Option (List Nat × Bits)
  | 0, lengths, bits => if lengths.length = count then some (lengths, bits) else none
  | steps + 1, lengths, bits =>
    if lengths.length = count then some (lengths, bits)
    else if lengths.length > count then none
    else do
      let (symbol, bits) ← code.decode? bits
      if symbol < 16 then wordLengths? code count steps (lengths ++ [symbol]) bits
      else if symbol = 16 then do
        let last ← lengths.getLast?
        let (extra, bits) ← bits.number? 2
        wordLengths? code count steps (lengths ++ List.replicate (extra + 3) last) bits
      else if symbol = 17 then do
        let (extra, bits) ← bits.number? 3
        wordLengths? code count steps (lengths ++ List.replicate (extra + 3) 0) bits
      else do
        let (extra, bits) ← bits.number? 7
        wordLengths? code count steps (lengths ++ List.replicate (extra + 11) 0) bits

def literalLimit : Nat := 286

def distanceLimit : Nat := 30

def codes? (bits : Bits) : Option (HuffmanCode × HuffmanCode × Bits) := do
  let (moreLiterals, bits) ← bits.number? 5
  let (moreDistances, bits) ← bits.number? 5
  let (moreLengths, bits) ← bits.number? 4
  let literalCount := moreLiterals + 257
  let distanceCount := moreDistances + 1
  guard (literalCount ≤ literalLimit ∧ distanceCount ≤ distanceLimit)
  let (written, bits) ← smallNumbers? (moreLengths + 4) 3 bits
  let pairs := lengthOrder.zip written
  let lengthCode ← HuffmanCode.full?
    ((List.range 19).map fun symbol => (pairs.lookup symbol).getD 0)
  let count := literalCount + distanceCount
  let (lengths, bits) ← wordLengths? lengthCode count count [] bits
  let literals ← HuffmanCode.fullOrScant? (lengths.take literalCount)
  let distances ← HuffmanCode.fullOrScant? (lengths.drop literalCount)
  return (literals, distances, bits)

def block? (kind : Nat) (output : Array UInt8) (bits : Bits) : Option (Array UInt8 × Bits) :=
  match kind with
  | 0 => stored? output bits
  | 1 =>
    symbols (.ofLengths fixedLiterals) (.ofLengths fixedDistances) bits.length output bits
  | 2 => do
    let (literals, distances, bits) ← codes? bits
    symbols literals distances bits.length output bits
  | _ => none

/-- Reads blocks up to the last one. Each takes three bits at least. -/
def blocks : (steps : Nat) → Array UInt8 → Bits → Option (Array UInt8)
  | 0, _, _ => none
  | steps + 1, output, bits =>
    match bits.number? 1 with
    | none => none
    | some (last, bits) =>
      match (bits.number? 2).bind fun (kind, bits) => block? kind output bits with
      | none => none
      | some (output, bits) => if last = 1 then some output else blocks steps output bits

def inflate? (data : List UInt8) : Option (List UInt8) :=
  let bits := Bits.ofBytes data
  (blocks bits.length #[] bits).map Array.toList

end TypeTokenWrappers.Inflate
