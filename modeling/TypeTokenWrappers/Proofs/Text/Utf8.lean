import Mathlib.Data.String.Basic
import TypeTokenWrappers.Text.Utf8

/-! # Plain UTF-8 reads back

The tests on bytes are restated as ranges of numbers, `decode?` gets one equation
for each size of group, and with these reading undoes writing. -/

namespace TypeTokenWrappers.Utf8

/-! ## Bytes as numbers -/

theorem isContinuation_iff (byte : UInt8) :
    isContinuation byte = true ↔ 0x80 ≤ byte.toNat ∧ byte.toNat < 0xC0 := by
  have ranges : ∀ value < 256,
      value &&& 0xC0 = 0x80 ↔ 0x80 ≤ value ∧ value < 0xC0 := by decide +kernel
  rw [isContinuation, beq_iff_eq, ← UInt8.toNat_inj, UInt8.toNat_and]
  exact ranges byte.toNat byte.toNat_lt

theorem payload_eq (byte : UInt8) : payload byte = byte.toNat % 0x40 := by
  rw [payload, UInt8.toNat_and]
  exact Nat.and_two_pow_sub_one_eq_mod byte.toNat 6

theorem isAscii_iff (lead : UInt8) : lead < 0x80 ↔ lead.toNat < 0x80 :=
  UInt8.lt_iff_toNat_lt

theorem opensTwo_iff (lead : UInt8) :
    opensTwo lead = true ↔ 0xC2 ≤ lead.toNat ∧ lead.toNat ≤ 0xDF := by
  simp [opensTwo, UInt8.le_iff_toNat_le]

theorem opensThree_iff (lead second : UInt8) :
    opensThree lead second = true ↔ isContinuation second = true ∧
      (lead.toNat = 0xE0 ∧ 0xA0 ≤ second.toNat ∨ 0xE1 ≤ lead.toNat ∧ lead.toNat ≤ 0xEC ∨
        lead.toNat = 0xED ∧ second.toNat ≤ 0x9F ∨ 0xEE ≤ lead.toNat ∧ lead.toNat ≤ 0xEF) := by
  simp [opensThree, UInt8.le_iff_toNat_le, ← UInt8.toNat_inj, or_assoc]

theorem opensFour_iff (lead second : UInt8) :
    opensFour lead second = true ↔ isContinuation second = true ∧
      (lead.toNat = 0xF0 ∧ 0x90 ≤ second.toNat ∨ 0xF1 ≤ lead.toNat ∧ lead.toNat ≤ 0xF3 ∨
        lead.toNat = 0xF4 ∧ second.toNat ≤ 0x8F) := by
  simp [opensFour, UInt8.le_iff_toNat_le, ← UInt8.toNat_inj, or_assoc]

theorem charOfTwo_eq (lead second : UInt8) :
    charOfTwo lead second = Char.ofNat (lead.toNat % 0x20 * 0x40 + second.toNat % 0x40) := by
  have high : (lead &&& 0x1F).toNat = lead.toNat % 0x20 := by
    rw [UInt8.toNat_and]
    exact Nat.and_two_pow_sub_one_eq_mod lead.toNat 5
  rw [charOfTwo, payload_eq, high]

theorem charOfThree_eq (lead second third : UInt8) :
    charOfThree lead second third = Char.ofNat (lead.toNat % 0x10 * 0x1000 +
      second.toNat % 0x40 * 0x40 + third.toNat % 0x40) := by
  have high : (lead &&& 0x0F).toNat = lead.toNat % 0x10 := by
    rw [UInt8.toNat_and]
    exact Nat.and_two_pow_sub_one_eq_mod lead.toNat 4
  rw [charOfThree, payload_eq, payload_eq, high]

theorem charOfFour_eq (lead second third fourth : UInt8) :
    charOfFour lead second third fourth = Char.ofNat (lead.toNat % 0x08 * 0x40000 +
      second.toNat % 0x40 * 0x1000 + third.toNat % 0x40 * 0x40 + fourth.toNat % 0x40) := by
  have high : (lead &&& 0x07).toNat = lead.toNat % 0x08 := by
    rw [UInt8.toNat_and]
    exact Nat.and_two_pow_sub_one_eq_mod lead.toNat 3
  rw [charOfFour, payload_eq, payload_eq, payload_eq, high]

/-! ## One group -/

theorem decode?_one {lead : UInt8} (rest : List UInt8) (opens : lead.toNat < 0x80) :
    decode? (lead :: rest) = (decode? rest).map (charOfOne lead :: ·) := by
  have small : lead < 0x80 := (isAscii_iff lead).mpr opens
  rw [decode?.eq_def]
  simp [small]

theorem decode?_two {lead second : UInt8} (rest : List UInt8)
    (opens : opensTwo lead = true) (continues : isContinuation second = true) :
    decode? (lead :: second :: rest) = (decode? rest).map (charOfTwo lead second :: ·) := by
  have large : ¬ lead < 0x80 := by
    rw [opensTwo_iff] at opens
    rw [isAscii_iff]
    omega
  rw [decode?.eq_def]
  simp [large, opens, continues]

theorem decode?_three {lead second third : UInt8} (rest : List UInt8)
    (opens : opensThree lead second = true) (continues : isContinuation third = true) :
    decode? (lead :: second :: third :: rest) =
      (decode? rest).map (charOfThree lead second third :: ·) := by
  have range := (opensThree_iff lead second).mp opens
  have large : ¬ lead < 0x80 := by
    rw [isAscii_iff]
    omega
  have opensNoTwo : ¬ opensTwo lead = true := by
    rw [opensTwo_iff]
    omega
  rw [decode?.eq_def]
  simp [large, opensNoTwo, opens, continues]

theorem decode?_four {lead second third fourth : UInt8} (rest : List UInt8)
    (opens : opensFour lead second = true) (continues : isContinuation third = true)
    (ends : isContinuation fourth = true) :
    decode? (lead :: second :: third :: fourth :: rest) =
      (decode? rest).map (charOfFour lead second third fourth :: ·) := by
  have range := (opensFour_iff lead second).mp opens
  have large : ¬ lead < 0x80 := by
    rw [isAscii_iff]
    omega
  have opensNoTwo : ¬ opensTwo lead = true := by
    rw [opensTwo_iff]
    omega
  have opensNoThree : ¬ opensThree lead second = true := by
    rw [opensThree_iff]
    omega
  rw [decode?.eq_def]
  simp [large, opensNoTwo, opensNoThree, opens, continues, ends]

/-! ## Texts -/

/-- The numbers of characters leave out the surrogates. -/
theorem toNat_ranges (char : Char) :
    char.toNat < 0xD800 ∨ 0xDFFF < char.toNat ∧ char.toNat < 0x110000 :=
  char.valid

theorem toNat_continuation (value : Nat) :
    (UInt8.ofNat (value % 0x40 + 0x80)).toNat = value % 0x40 + 0x80 :=
  UInt8.toNat_ofNat_of_lt' (show value % 0x40 + 0x80 < 256 by omega)

theorem isContinuation_continuation (value : Nat) :
    isContinuation (UInt8.ofNat (value % 0x40 + 0x80)) = true := by
  rw [isContinuation_iff, toNat_continuation]
  omega

theorem decode?_encodeChar (char : Char) (rest : List UInt8) :
    decode? (String.utf8EncodeChar char ++ rest) = (decode? rest).map (char :: ·) := by
  have ranges := toNat_ranges char
  have byte (value : Nat) (small : value < 256) : (UInt8.ofNat value).toNat = value :=
    UInt8.toNat_ofNat_of_lt' small
  fun_cases String.utf8EncodeChar char with
  | case1 value small =>
      have value_eq : value = char.toNat := rfl
      rw [List.singleton_append, decode?_one]
      · rw [charOfOne, byte value (by omega), value_eq, Char.ofNat_toNat]
      · rw [byte value (by omega)]
        omega
  | case2 value large small =>
      have value_eq : value = char.toNat := rfl
      have lead := byte (value / 64 % 0x20 + 0xC0) (by omega)
      rw [List.cons_append, List.singleton_append, decode?_two]
      · have joined : (value / 64 % 0x20 + 0xC0) % 0x20 * 0x40 +
            (value % 0x40 + 0x80) % 0x40 = char.toNat := by omega
        rw [charOfTwo_eq, lead, toNat_continuation, joined, Char.ofNat_toNat]
      · rw [opensTwo_iff, lead]
        omega
      · exact isContinuation_continuation value
  | case3 value _ large small =>
      have value_eq : value = char.toNat := rfl
      have lead := byte (value / 4096 % 0x10 + 0xE0) (by omega)
      rw [List.cons_append, List.cons_append, List.singleton_append, decode?_three]
      · have joined : (value / 4096 % 0x10 + 0xE0) % 0x10 * 0x1000 +
            (value / 64 % 0x40 + 0x80) % 0x40 * 0x40 + (value % 0x40 + 0x80) % 0x40 =
              char.toNat := by omega
        rw [charOfThree_eq, lead, toNat_continuation, toNat_continuation, joined,
          Char.ofNat_toNat]
      · rw [opensThree_iff, lead, toNat_continuation]
        exact ⟨isContinuation_continuation _, by omega⟩
      · exact isContinuation_continuation value
  | case4 value _ _ large =>
      have value_eq : value = char.toNat := rfl
      have lead := byte (value / 262144 % 0x08 + 0xF0) (by omega)
      rw [List.cons_append, List.cons_append, List.cons_append, List.singleton_append,
        decode?_four]
      · have joined : (value / 262144 % 0x08 + 0xF0) % 0x08 * 0x40000 +
            (value / 4096 % 0x40 + 0x80) % 0x40 * 0x1000 +
            (value / 64 % 0x40 + 0x80) % 0x40 * 0x40 + (value % 0x40 + 0x80) % 0x40 =
              char.toNat := by omega
        rw [charOfFour_eq, lead, toNat_continuation, toNat_continuation, toNat_continuation,
          joined, Char.ofNat_toNat]
      · rw [opensFour_iff, lead, toNat_continuation]
        exact ⟨isContinuation_continuation _, by omega⟩
      · exact isContinuation_continuation _
      · exact isContinuation_continuation value

@[simp] theorem decode?_encode (text : List Char) : decode? (encode text) = some text := by
  induction text with
  | nil => rfl
  | cons char rest induction =>
      rw [encode, List.flatMap_cons, decode?_encodeChar]
      change Option.map _ (decode? (encode rest)) = _
      rw [induction, Option.map_some]

/-! ## Only what is written is read -/

theorem toNat_charOfNat {value : Nat}
    (range : value < 0xD800 ∨ 0xDFFF < value ∧ value < 0x110000) :
    (Char.ofNat value).toNat = value := by
  have valid : value.isValidChar := range
  rw [Char.ofNat, dif_pos valid]
  rfl

theorem encodeChar_charOfOne {lead : UInt8} (opens : lead.toNat < 0x80) :
    String.utf8EncodeChar (charOfOne lead) = [lead] := by
  have number : (charOfOne lead).toNat = lead.toNat := toNat_charOfNat (by omega)
  fun_cases String.utf8EncodeChar (charOfOne lead) with
  | case1 value small =>
      have value_eq : value = lead.toNat := number
      rw [value_eq, UInt8.ofNat_toNat]
  | case2 value large | case3 value large | case4 value large =>
      have value_eq : value = lead.toNat := number
      omega

theorem encodeChar_charOfTwo {lead second : UInt8} (opens : opensTwo lead = true)
    (continues : isContinuation second = true) :
    String.utf8EncodeChar (charOfTwo lead second) = [lead, second] := by
  rw [opensTwo_iff] at opens
  rw [isContinuation_iff] at continues
  rw [charOfTwo_eq]
  generalize code_eq : lead.toNat % 0x20 * 0x40 + second.toNat % 0x40 = code
  have number : (Char.ofNat code).toNat = code := toNat_charOfNat (by omega)
  fun_cases String.utf8EncodeChar (Char.ofNat code) with
  | case2 value large small =>
      have value_eq : value = code := number
      have first_eq : value / 64 % 0x20 + 0xC0 = lead.toNat := by omega
      have second_eq : value % 0x40 + 0x80 = second.toNat := by omega
      rw [first_eq, second_eq, UInt8.ofNat_toNat, UInt8.ofNat_toNat]
  | case1 value bound | case3 value _ bound | case4 value _ bound =>
      have value_eq : value = code := number
      omega

theorem encodeChar_charOfThree {lead second third : UInt8}
    (opens : opensThree lead second = true) (continues : isContinuation third = true) :
    String.utf8EncodeChar (charOfThree lead second third) = [lead, second, third] := by
  rw [opensThree_iff, isContinuation_iff] at opens
  rw [isContinuation_iff] at continues
  rw [charOfThree_eq]
  generalize code_eq :
    lead.toNat % 0x10 * 0x1000 + second.toNat % 0x40 * 0x40 + third.toNat % 0x40 = code
  have number : (Char.ofNat code).toNat = code := toNat_charOfNat (by omega)
  fun_cases String.utf8EncodeChar (Char.ofNat code) with
  | case3 value _ large small =>
      have value_eq : value = code := number
      have first_eq : value / 4096 % 0x10 + 0xE0 = lead.toNat := by omega
      have second_eq : value / 64 % 0x40 + 0x80 = second.toNat := by omega
      have third_eq : value % 0x40 + 0x80 = third.toNat := by omega
      rw [first_eq, second_eq, third_eq]
      simp only [UInt8.ofNat_toNat]
  | case1 value bound | case2 value _ bound | case4 value _ _ bound =>
      have value_eq : value = code := number
      omega

theorem encodeChar_charOfFour {lead second third fourth : UInt8}
    (opens : opensFour lead second = true) (continues : isContinuation third = true)
    (ends : isContinuation fourth = true) :
    String.utf8EncodeChar (charOfFour lead second third fourth) =
      [lead, second, third, fourth] := by
  rw [opensFour_iff, isContinuation_iff] at opens
  rw [isContinuation_iff] at continues ends
  rw [charOfFour_eq]
  generalize code_eq : lead.toNat % 0x08 * 0x40000 + second.toNat % 0x40 * 0x1000 +
    third.toNat % 0x40 * 0x40 + fourth.toNat % 0x40 = code
  have number : (Char.ofNat code).toNat = code := toNat_charOfNat (by omega)
  fun_cases String.utf8EncodeChar (Char.ofNat code) with
  | case4 value _ _ large =>
      have value_eq : value = code := number
      have first_eq : value / 262144 % 0x08 + 0xF0 = lead.toNat := by omega
      have second_eq : value / 4096 % 0x40 + 0x80 = second.toNat := by omega
      have third_eq : value / 64 % 0x40 + 0x80 = third.toNat := by omega
      have fourth_eq : value % 0x40 + 0x80 = fourth.toNat := by omega
      rw [first_eq, second_eq, third_eq, fourth_eq]
      simp only [UInt8.ofNat_toNat]
  | case1 value bound | case2 value _ bound | case3 value _ _ bound =>
      have value_eq : value = code := number
      omega

/-- Bytes are read if a text is written as them, and as that text. -/
theorem decode?_eq_some_iff {bytes : List UInt8} {text : List Char} :
    decode? bytes = some text ↔ bytes = encode text := by
  constructor
  · intro decoded
    fun_induction decode? bytes generalizing text with
    | case1 =>
        cases decoded
        rfl
    | case2 lead rest small induction =>
        rcases Option.map_eq_some_iff.mp decoded with ⟨following, found, rfl⟩
        rw [encode, List.flatMap_cons, encodeChar_charOfOne ((isAscii_iff lead).mp small),
          induction found]
        rfl
    | case4 lead _ second rest accepted induction =>
        rcases Option.map_eq_some_iff.mp decoded with ⟨following, found, rfl⟩
        rw [Bool.and_eq_true] at accepted
        rw [encode, List.flatMap_cons, encodeChar_charOfTwo accepted.1 accepted.2,
          induction found]
        rfl
    | case6 lead _ second _ third rest accepted induction =>
        rcases Option.map_eq_some_iff.mp decoded with ⟨following, found, rfl⟩
        rw [Bool.and_eq_true] at accepted
        rw [encode, List.flatMap_cons, encodeChar_charOfThree accepted.1 accepted.2,
          induction found]
        rfl
    | case8 lead _ second _ third _ fourth rest accepted induction =>
        rcases Option.map_eq_some_iff.mp decoded with ⟨following, found, rfl⟩
        rw [Bool.and_eq_true, Bool.and_eq_true] at accepted
        rw [encode, List.flatMap_cons,
          encodeChar_charOfFour accepted.1.1 accepted.1.2 accepted.2, induction found]
        rfl
    | case3 | case5 | case7 | case9 => cases decoded
  · rintro rfl
    exact decode?_encode text

theorem encodeString_append (front rest : String) :
    encodeString (front ++ rest) = encodeString front ++ encodeString rest := by
  simp [encodeString, encode]

end TypeTokenWrappers.Utf8
