import TypeTokenWrappers.Proofs.Text.Utf8
import TypeTokenWrappers.Text.Utf16

/-! # UTF-16 reads back

Surrogates are told apart from all other units by their numbers, which no
character has. -/

namespace TypeTokenWrappers.Utf16

theorem isHighSurrogate_iff (unit : UInt16) :
    isHighSurrogate unit = true ↔ 0xD800 ≤ unit.toNat ∧ unit.toNat ≤ 0xDBFF := by
  simp [isHighSurrogate, UInt16.le_iff_toNat_le]

theorem isLowSurrogate_iff (unit : UInt16) :
    isLowSurrogate unit = true ↔ 0xDC00 ≤ unit.toNat ∧ unit.toNat ≤ 0xDFFF := by
  simp [isLowSurrogate, UInt16.le_iff_toNat_le]

theorem toNat_unit {value : Nat} (small : value < 0x10000) :
    (UInt16.ofNat value).toNat = value :=
  UInt16.toNat_ofNat_of_lt' small

theorem decode?_single {unit : UInt16} (rest : List UInt16)
    (notHigh : ¬ isHighSurrogate unit = true) (notLow : ¬ isLowSurrogate unit = true) :
    decode? (unit :: rest) = (decode? rest).map (Char.ofNat unit.toNat :: ·) := by
  rw [decode?.eq_def]
  simp [notHigh, notLow]

theorem decode?_pair {high low : UInt16} (rest : List UInt16)
    (isHigh : isHighSurrogate high = true) (isLow : isLowSurrogate low = true) :
    decode? (high :: low :: rest) = (decode? rest).map (charOfPair high low :: ·) := by
  rw [decode?.eq_def]
  simp [isHigh, isLow]

theorem encodeChar_of_lt {char : Char} (small : char.toNat < 0x10000) :
    encodeChar char = [UInt16.ofNat char.toNat] := by
  rw [encodeChar, if_pos small]

theorem decode?_encodeChar (char : Char) (rest : List UInt16) :
    decode? (encodeChar char ++ rest) = (decode? rest).map (char :: ·) := by
  have ranges := Utf8.toNat_ranges char
  rw [encodeChar]
  split
  case isTrue small =>
    have whole := toNat_unit small
    rw [List.singleton_append, decode?_single]
    · rw [whole, Char.ofNat_toNat]
    · rw [isHighSurrogate_iff, whole]
      omega
    · rw [isLowSurrogate_iff, whole]
      omega
  case isFalse large =>
    dsimp only
    generalize offset_eq : char.toNat - 0x10000 = offset
    have high := toNat_unit (show 0xD800 + offset / 0x400 < 0x10000 by omega)
    have low := toNat_unit (show 0xDC00 + offset % 0x400 < 0x10000 by omega)
    rw [List.cons_append, List.singleton_append, decode?_pair]
    · have joined : 0x10000 + (0xD800 + offset / 0x400 - 0xD800) * 0x400 +
          (0xDC00 + offset % 0x400 - 0xDC00) = char.toNat := by omega
      rw [charOfPair, high, low, joined, Char.ofNat_toNat]
    · rw [isHighSurrogate_iff, high]
      omega
    · rw [isLowSurrogate_iff, low]
      omega

@[simp] theorem decode?_encode (text : List Char) : decode? (encode text) = some text := by
  induction text with
  | nil => rfl
  | cons char rest induction =>
      rw [encode, List.flatMap_cons, decode?_encodeChar]
      change Option.map _ (decode? (encode rest)) = _
      rw [induction, Option.map_some]

/-! ## Only the units of a text are read -/

theorem encodeChar_ofNat_toNat {unit : UInt16} (notHigh : ¬ isHighSurrogate unit = true)
    (notLow : ¬ isLowSurrogate unit = true) : encodeChar (Char.ofNat unit.toNat) = [unit] := by
  rw [isHighSurrogate_iff] at notHigh
  rw [isLowSurrogate_iff] at notLow
  have bound := unit.toNat_lt
  have number : (Char.ofNat unit.toNat).toNat = unit.toNat := Utf8.toNat_charOfNat (by omega)
  rw [encodeChar_of_lt (by omega), number, UInt16.ofNat_toNat]

theorem encodeChar_charOfPair {high low : UInt16} (isHigh : isHighSurrogate high = true)
    (isLow : isLowSurrogate low = true) : encodeChar (charOfPair high low) = [high, low] := by
  rw [isHighSurrogate_iff] at isHigh
  rw [isLowSurrogate_iff] at isLow
  generalize code_eq :
    0x10000 + (high.toNat - 0xD800) * 0x400 + (low.toNat - 0xDC00) = code
  have number : (Char.ofNat code).toNat = code := Utf8.toNat_charOfNat (by omega)
  have highPart : 0xD800 + (code - 0x10000) / 0x400 = high.toNat := by omega
  have lowPart : 0xDC00 + (code - 0x10000) % 0x400 = low.toNat := by omega
  rw [charOfPair, code_eq, encodeChar, number, if_neg (by omega)]
  simp only [highPart, lowPart, UInt16.ofNat_toNat]

theorem decode?_eq_some_iff {units : List UInt16} {text : List Char} :
    decode? units = some text ↔ units = encode text := by
  constructor
  · intro decoded
    fun_induction decode? units generalizing text with
    | case1 =>
        cases decoded
        rfl
    | case2 high isHigh low rest isLow induction =>
        rcases Option.map_eq_some_iff.mp decoded with ⟨following, found, rfl⟩
        rw [encode, List.flatMap_cons, encodeChar_charOfPair isHigh isLow, induction found]
        rfl
    | case6 unit rest notHigh notLow induction =>
        rcases Option.map_eq_some_iff.mp decoded with ⟨following, found, rfl⟩
        rw [encode, List.flatMap_cons, encodeChar_ofNat_toNat notHigh notLow, induction found]
        rfl
    | case3 | case4 | case5 => cases decoded
  · rintro rfl
    exact decode?_encode text

end TypeTokenWrappers.Utf16
