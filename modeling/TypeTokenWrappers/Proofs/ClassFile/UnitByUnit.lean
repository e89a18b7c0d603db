import TypeTokenWrappers.Proofs.ClassFile.Encodings
import TypeTokenWrappers.Proofs.ClassFile.Pool

/-! # What the plain reading adds

A constant that is plain UTF-8 is read as that, and is not looked at unit by unit. For most
constants this makes no difference: the units spell the same text. Only groups of four bytes,
which no unit has, are read by the plain reading alone. -/

namespace TypeTokenWrappers

namespace ModifiedUtf8

theorem noFour_iff {bytes : List UInt8} : NoFour bytes ↔ ∀ byte ∈ bytes, byte < 0xF0 := by
  simp [NoFour, UInt8.lt_iff_toNat_lt]

theorem not_noFour_iff {bytes : List UInt8} : ¬ NoFour bytes ↔ ∃ byte ∈ bytes, 0xF0 ≤ byte := by
  simp [noFour_iff]

/-- Where plain UTF-8 has no group of four, its units are read as the same text, and
otherwise not at all. -/
theorem decodeUnits?_encode (text : List Char) :
    decodeUnits? (Utf8.encode text) = if NoFour (Utf8.encode text) then some text else none := by
  rw [decodeUnits?, units?_of_decode? (Utf8.decode?_encode text)]
  split
  · rw [Option.bind_some, Utf16.decode?_encode]
  · rw [Option.bind_none]

/-- Only a character of four bytes has a byte that opens no group of units. -/
theorem not_noFour_encodeChar_iff (char : Char) :
    ¬ NoFour (String.utf8EncodeChar char) ↔ char.utf8Size = 4 := by
  have ranges := Utf8.toNat_ranges char
  rw [not_noFour_iff, ← String.length_utf8EncodeChar]
  fun_cases String.utf8EncodeChar char with
  | case1 value small =>
      simp [UInt8.le_iff_toNat_le]
      omega
  | case2 value _ small =>
      simp [UInt8.le_iff_toNat_le]
      omega
  | case3 value _ _ small =>
      simp [UInt8.le_iff_toNat_le]
      omega
  | case4 value _ _ large =>
      simp [UInt8.le_iff_toNat_le]
      omega

theorem not_noFour_encode_iff {text : List Char} :
    ¬ NoFour (Utf8.encode text) ↔ ∃ char ∈ text, char.utf8Size = 4 := by
  have each : NoFour (Utf8.encode text) ↔ ∀ char ∈ text, NoFour (String.utf8EncodeChar char) :=
    List.forall_mem_flatMap
  rw [each]
  simp only [not_forall, exists_prop, not_noFour_encodeChar_iff]

/-- The plain reading makes a difference only for plain UTF-8 with a character of four bytes. -/
theorem decode?_ne_decodeUnits?_iff {bytes : List UInt8} :
    decode? bytes ≠ decodeUnits? bytes ↔
      ∃ text, bytes = Utf8.encode text ∧ ∃ char ∈ text, char.utf8Size = 4 := by
  cases decoded : Utf8.decode? bytes with
  | none =>
      have same : decode? bytes = decodeUnits? bytes := by rw [decode?, decoded]
      refine iff_of_false (absurd same) ?_
      rintro ⟨text, rfl, _⟩
      rw [Utf8.decode?_encode] at decoded
      cases decoded
  | some text =>
      have plain : decode? bytes = some text := by rw [decode?, decoded]
      obtain rfl := Utf8.decode?_eq_some_iff.mp decoded
      rw [plain, decodeUnits?_encode]
      constructor
      · intro different
        refine ⟨text, rfl, not_noFour_encode_iff.mp fun noFour => ?_⟩
        rw [if_pos noFour] at different
        exact different rfl
      · rintro ⟨other, same, four⟩
        rw [← not_noFour_encode_iff, ← same] at four
        rw [if_neg four]
        exact Option.some_ne_none text

end ModifiedUtf8

namespace ClassFile

/-- Two ways to decode come to the same if they find the same characters. -/
theorem textOf_eq_textOf_iff {decode other : List UInt8 → Option (List Char)}
    {content : List UInt8} {offset : Nat} :
    textOf decode content offset = textOf other content offset ↔
      decode content = other content := by
  rw [textOf, textOf]
  cases decode content <;> cases other content <;> simp [String.ofList_inj]

/-- Read only unit by unit, a constant that is plain UTF-8 spells the same text if it has no byte
from 0xF0 on, and is refused at its offset otherwise. So whatever the bytes of a constant are, it
matters only for plain UTF-8 with a character of four bytes that the plain reading comes first. -/
theorem textOf_unitByUnit (content : List UInt8) (offset : Nat) :
    (∀ text, content = Utf8.encodeString text →
      ((∀ byte ∈ content, byte < 0xF0) →
        textOf ModifiedUtf8.decodeUnits? content offset = .ok text) ∧
      ((∃ byte ∈ content, 0xF0 ≤ byte) → ∃ error,
        textOf ModifiedUtf8.decodeUnits? content offset = .error error ∧
          error.fault.message = "invalid modified UTF-8 constant" ∧ error.offset = offset)) ∧
    (textOf ModifiedUtf8.decode? content offset ≠
        textOf ModifiedUtf8.decodeUnits? content offset ↔
      ∃ text, content = Utf8.encodeString text ∧ ∃ char ∈ text.toList, char.utf8Size = 4) := by
  refine ⟨?_, ?_⟩
  · rintro text rfl
    rw [← ModifiedUtf8.noFour_iff, ← ModifiedUtf8.not_noFour_iff, textOf, Utf8.encodeString,
      ModifiedUtf8.decodeUnits?_encode]
    constructor
    · intro noFour
      rw [if_pos noFour]
      exact congrArg Except.ok String.ofList_toList
    · intro four
      rw [if_neg four]
      exact ⟨_, rfl, rfl, rfl⟩
  · rw [ne_eq, textOf_eq_textOf_iff, ← ne_eq, ModifiedUtf8.decode?_ne_decodeUnits?_iff]
    constructor
    · rintro ⟨text, rfl, four⟩
      exact ⟨String.ofList text, by simp [Utf8.encodeString], by simpa using four⟩
    · rintro ⟨text, rfl, four⟩
      exact ⟨text.toList, rfl, four⟩

/-- A text with a character of three bytes, and one with a character of four. -/
theorem textOf_unitByUnit_samples :
    textOf ModifiedUtf8.decodeUnits? [0x61, 0xE2, 0x82, 0xAC] 10 = .ok "a€" ∧
    (∃ error, textOf ModifiedUtf8.decodeUnits? [0x61, 0xF0, 0x9F, 0x98, 0x80] 10 = .error error ∧
      error.fault.message = "invalid modified UTF-8 constant" ∧ error.offset = 10) ∧
    textOf ModifiedUtf8.decode? [0x61, 0xF0, 0x9F, 0x98, 0x80] 10 ≠
      textOf ModifiedUtf8.decodeUnits? [0x61, 0xF0, 0x9F, 0x98, 0x80] 10 := by
  have three := (textOf_unitByUnit [0x61, 0xE2, 0x82, 0xAC] 10).1 "a€" (by decide +kernel)
  have four := textOf_unitByUnit [0x61, 0xF0, 0x9F, 0x98, 0x80] 10
  have spelled : [0x61, 0xF0, 0x9F, 0x98, 0x80] = Utf8.encodeString "a😀" := by decide +kernel
  refine ⟨three.1 (by simp), (four.1 "a😀" spelled).2 ⟨0xF0, by simp, by decide⟩, ?_⟩
  exact four.2.mpr ⟨"a😀", spelled, '😀', by simp, rfl⟩

end ClassFile

end TypeTokenWrappers
