import TypeTokenWrappers.Proofs.ClassFile.ModifiedUtf8

/-! # The two encodings of a text

Nothing in a class file says in which encoding a text constant is written. A text is
found again from both: where they differ, the modified one is not plain UTF-8 at all. -/

namespace TypeTokenWrappers.ModifiedUtf8

/-- Whether both encodings write a character with the same bytes. -/
def Common (char : Char) : Prop :=
  char ≠ '\x00' ∧ char.toNat < 0x10000

/-! ## One character -/

theorem encodeChar_of_common {char : Char} (common : Common char) :
    encodeUnits (Utf16.encodeChar char) = String.utf8EncodeChar char := by
  have nonzero : char.toNat ≠ 0 := by
    intro zero
    have same : Char.ofNat char.toNat = '\x00' := by rw [zero]
    rw [Char.ofNat_toNat] at same
    exact common.1 same
  rw [Utf16.encodeChar_of_lt common.2, encodeUnits, List.flatMap_singleton, encodeUnit,
    Utf16.toNat_unit common.2]
  fun_cases String.utf8EncodeChar char with
  | case1 value small =>
      have value_eq : value = char.toNat := rfl
      rw [if_pos (by omega), value_eq]
  | case2 value large small =>
      have value_eq : value = char.toNat := rfl
      have lead : 0xC0 + char.toNat / 0x40 = value / 64 % 0x20 + 0xC0 := by omega
      rw [if_neg (by omega), if_pos (by omega), lead, Nat.add_comm 0x80, value_eq]
  | case3 value _ large small =>
      have value_eq : value = char.toNat := rfl
      have lead : 0xE0 + char.toNat / 0x1000 = value / 4096 % 0x10 + 0xE0 := by omega
      rw [if_neg (by omega), if_neg (by omega), lead, Nat.add_comm 0x80, Nat.add_comm 0x80,
        value_eq]
  | case4 value _ _ large =>
      have value_eq : value = char.toNat := rfl
      have small := common.2
      omega

/-- Plain UTF-8 writes any other character with a byte that modified UTF-8 never uses. -/
theorem exists_mem_encodeChar {char : Char} (different : ¬ Common char) :
    ∃ byte ∈ String.utf8EncodeChar char, byte.toNat = 0 ∨ 0xF0 ≤ byte.toNat := by
  by_cases zero : char = '\x00'
  case pos =>
    rw [zero]
    exact ⟨0, by decide, .inl rfl⟩
  case neg =>
    have large : ¬ char.toNat < 0x10000 := fun small => different ⟨zero, small⟩
    have ranges := Utf8.toNat_ranges char
    fun_cases String.utf8EncodeChar char with
    | case4 value =>
        refine ⟨_, List.mem_cons_self .., .inr ?_⟩
        rw [UInt8.toNat_ofNat_of_lt' (show value / 262144 % 0x08 + 0xF0 < 256 by omega)]
        omega
    | case1 value bound | case2 value _ bound | case3 value _ _ bound =>
        have value_eq : value = char.toNat := rfl
        omega

/-! ## Texts -/

theorem encode_cons (char : Char) (rest : List Char) :
    encode (char :: rest) = encodeUnits (Utf16.encodeChar char) ++ encode rest := by
  rw [encode, Utf16.encode, List.flatMap_cons, encodeUnits, List.flatMap_append]
  rfl

/-- The encodings of a text are the same bytes if those of its characters are. -/
theorem encode_eq_utf8_iff {text : List Char} :
    encode text = Utf8.encode text ↔ ∀ char ∈ text, Common char := by
  constructor
  · intro same char member
    by_contra different
    rcases exists_mem_encodeChar different with ⟨byte, inChar, unused⟩
    have written : byte ∈ encode text := by
      rw [same]
      exact List.mem_flatMap.mpr ⟨char, member, inChar⟩
    rcases List.mem_flatMap.mp written with ⟨unit, _, inUnit⟩
    have range := range_of_mem_encodeUnit inUnit
    omega
  · intro common
    induction text with
    | nil => rfl
    | cons char rest induction =>
        rcases List.forall_mem_cons.mp common with ⟨first, others⟩
        rw [encode_cons, encodeChar_of_common first, induction others]
        rfl

/-- A text is read back from both of its encodings. Modified UTF-8 is taken for plain
UTF-8 only where it is the plain UTF-8 of the same text. -/
theorem decodes_either_encoding (text : List Char) :
    decode? (encode text) = some text ∧ decode? (Utf8.encode text) = some text ∧
      ∀ other, Utf8.decode? (encode text) = some other ↔
        other = text ∧ ∀ char ∈ text, char ≠ '\x00' ∧ char.toNat < 0x10000 := by
  refine ⟨decode?_encode text, decode?_utf8 text, ?_⟩
  intro other
  rw [Utf8.decode?_eq_some_iff]
  constructor
  · intro same
    have read := decode?_encode text
    rw [same, decode?_utf8, Option.some.injEq] at read
    rw [read] at same
    exact ⟨read, encode_eq_utf8_iff.mp same⟩
  · intro plain
    rw [plain.1]
    exact encode_eq_utf8_iff.mpr plain.2

end TypeTokenWrappers.ModifiedUtf8
