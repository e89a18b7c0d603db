import TypeTokenWrappers.ClassFile.ModifiedUtf8
import TypeTokenWrappers.Proofs.Text.Utf16

/-! # Modified UTF-8 reads back

A constant is first read as plain UTF-8. That this never misreads modified UTF-8
rests on one comparison: on bytes that are plain UTF-8 without groups of four,
reading unit by unit gives the UTF-16 form of the same text. -/

namespace TypeTokenWrappers.ModifiedUtf8

open Utf8 (isContinuation)

/-! ## Leads as numbers -/

theorem leadsOne_iff (lead : UInt8) : (lead &&& 0x80 == 0) = true ↔ lead.toNat < 0x80 := by
  have ranges : ∀ value < 256, value &&& 0x80 = 0 ↔ value < 0x80 := by decide +kernel
  rw [beq_iff_eq, ← UInt8.toNat_inj, UInt8.toNat_and]
  exact ranges lead.toNat lead.toNat_lt

theorem leadsTwo_iff (lead : UInt8) :
    (lead &&& 0xE0 == 0xC0) = true ↔ 0xC0 ≤ lead.toNat ∧ lead.toNat < 0xE0 := by
  have ranges : ∀ value < 256, value &&& 0xE0 = 0xC0 ↔ 0xC0 ≤ value ∧ value < 0xE0 := by
    decide +kernel
  rw [beq_iff_eq, ← UInt8.toNat_inj, UInt8.toNat_and]
  exact ranges lead.toNat lead.toNat_lt

theorem leadsThree_iff (lead : UInt8) :
    (lead &&& 0xF0 == 0xE0) = true ↔ 0xE0 ≤ lead.toNat ∧ lead.toNat < 0xF0 := by
  have ranges : ∀ value < 256, value &&& 0xF0 = 0xE0 ↔ 0xE0 ≤ value ∧ value < 0xF0 := by
    decide +kernel
  rw [beq_iff_eq, ← UInt8.toNat_inj, UInt8.toNat_and]
  exact ranges lead.toNat lead.toNat_lt

/-! ## One group -/

theorem units?_one {lead : UInt8} (rest : List UInt8) (opens : lead.toNat < 0x80) :
    units? (lead :: rest) = (units? rest).map (UInt16.ofNat lead.toNat :: ·) := by
  have leads := (leadsOne_iff lead).mpr opens
  have same : lead.toUInt16 = UInt16.ofNat lead.toNat := by simp
  rw [units?.eq_def]
  simp only [leads, same]
  rfl

theorem units?_two {lead second : UInt8} (rest : List UInt8)
    (opens : 0xC0 ≤ lead.toNat ∧ lead.toNat < 0xE0) (continues : isContinuation second = true) :
    units? (lead :: second :: rest) = (units? rest).map
      (UInt16.ofNat (lead.toNat % 0x20 * 0x40 + second.toNat % 0x40) :: ·) := by
  have leads := (leadsTwo_iff lead).mpr opens
  have leadsNoOne : ¬ (lead &&& 0x80 == 0) = true := by
    rw [leadsOne_iff]
    omega
  have high : (lead &&& 0x1F).toNat = lead.toNat % 0x20 := by
    rw [UInt8.toNat_and]
    exact Nat.and_two_pow_sub_one_eq_mod lead.toNat 5
  rw [units?.eq_def]
  simp only [leadsNoOne, leads, continues, high, Utf8.payload_eq]
  rfl

theorem units?_three {lead second third : UInt8} (rest : List UInt8)
    (opens : 0xE0 ≤ lead.toNat ∧ lead.toNat < 0xF0) (continues : isContinuation second = true)
    (ends : isContinuation third = true) :
    units? (lead :: second :: third :: rest) = (units? rest).map
      (UInt16.ofNat (lead.toNat % 0x10 * 0x1000 + second.toNat % 0x40 * 0x40 +
        third.toNat % 0x40) :: ·) := by
  have leads := (leadsThree_iff lead).mpr opens
  have leadsNoOne : ¬ (lead &&& 0x80 == 0) = true := by
    rw [leadsOne_iff]
    omega
  have leadsNoTwo : ¬ (lead &&& 0xE0 == 0xC0) = true := by
    rw [leadsTwo_iff]
    omega
  have high : (lead &&& 0x0F).toNat = lead.toNat % 0x10 := by
    rw [UInt8.toNat_and]
    exact Nat.and_two_pow_sub_one_eq_mod lead.toNat 4
  rw [units?.eq_def]
  simp only [leadsNoOne, leadsNoTwo, leads, continues, ends, high, Utf8.payload_eq]
  rfl

theorem units?_four {lead : UInt8} (rest : List UInt8) (opens : 0xF0 ≤ lead.toNat) :
    units? (lead :: rest) = none := by
  have leadsNoOne : ¬ (lead &&& 0x80 == 0) = true := by
    rw [leadsOne_iff]
    omega
  have leadsNoTwo : ¬ (lead &&& 0xE0 == 0xC0) = true := by
    rw [leadsTwo_iff]
    omega
  have leadsNoThree : ¬ (lead &&& 0xF0 == 0xE0) = true := by
    rw [leadsThree_iff]
    omega
  rw [units?.eq_def]
  simp only [leadsNoOne, leadsNoTwo, leadsNoThree]
  cases rest with
  | nil => rfl
  | cons second rest => cases rest <;> rfl

/-! ## Units -/

theorem units?_encodeUnit (unit : UInt16) (rest : List UInt8) :
    units? (encodeUnit unit ++ rest) = (units? rest).map (unit :: ·) := by
  have bound := unit.toNat_lt
  have byte (value : Nat) (small : value < 256) : (UInt8.ofNat value).toNat = value :=
    UInt8.toNat_ofNat_of_lt' small
  rw [encodeUnit, Nat.add_comm 0x80 (unit.toNat % 0x40)]
  split
  case isTrue small =>
    have lead := byte unit.toNat (by omega)
    rw [List.singleton_append, units?_one rest (by omega), lead, UInt16.ofNat_toNat]
  case isFalse _ =>
    split
    case isTrue small =>
      have lead := byte (0xC0 + unit.toNat / 0x40) (by omega)
      have joined : (0xC0 + unit.toNat / 0x40) % 0x20 * 0x40 +
          (unit.toNat % 0x40 + 0x80) % 0x40 = unit.toNat := by omega
      rw [List.cons_append, List.singleton_append,
        units?_two rest (by omega) (Utf8.isContinuation_continuation _), lead,
        Utf8.toNat_continuation, joined, UInt16.ofNat_toNat]
    case isFalse large =>
      have lead := byte (0xE0 + unit.toNat / 0x1000) (by omega)
      have joined : (0xE0 + unit.toNat / 0x1000) % 0x10 * 0x1000 +
          (unit.toNat / 0x40 % 0x40 + 0x80) % 0x40 * 0x40 +
          (unit.toNat % 0x40 + 0x80) % 0x40 = unit.toNat := by omega
      rw [Nat.add_comm 0x80 (unit.toNat / 0x40 % 0x40), List.cons_append, List.cons_append,
        List.singleton_append, units?_three rest (by omega)
          (Utf8.isContinuation_continuation _) (Utf8.isContinuation_continuation _), lead,
        Utf8.toNat_continuation, Utf8.toNat_continuation, joined, UInt16.ofNat_toNat]

@[simp] theorem units?_encodeUnits (units : List UInt16) :
    units? (encodeUnits units) = some units := by
  induction units with
  | nil => rfl
  | cons unit rest induction =>
      rw [encodeUnits, List.flatMap_cons, units?_encodeUnit]
      change Option.map _ (units? (encodeUnits rest)) = _
      rw [induction, Option.map_some]

/-- No byte of a unit is zero or opens a group of four in plain UTF-8. -/
theorem range_of_mem_encodeUnit {unit : UInt16} {byte : UInt8}
    (member : byte ∈ encodeUnit unit) : 0 < byte.toNat ∧ byte.toNat < 0xF0 := by
  have bound := unit.toNat_lt
  rw [encodeUnit] at member
  split at member
  · simp only [List.mem_singleton] at member
    rw [member, UInt8.toNat_ofNat']
    omega
  · split at member
    · simp only [List.mem_cons, List.not_mem_nil, or_false] at member
      rcases member with rfl | rfl <;> rw [UInt8.toNat_ofNat'] <;> omega
    · simp only [List.mem_cons, List.not_mem_nil, or_false] at member
      rcases member with rfl | rfl | rfl <;> rw [UInt8.toNat_ofNat'] <;> omega

/-! ## Plain UTF-8 read unit by unit -/

theorem encode_ofNat_cons {value : Nat} (rest : List Char)
    (valid : value < 0xD800 ∨ 0xDFFF < value ∧ value < 0x10000) :
    Utf16.encode (Char.ofNat value :: rest) = UInt16.ofNat value :: Utf16.encode rest := by
  have number : (Char.ofNat value).toNat = value := Utf8.toNat_charOfNat (by omega)
  rw [Utf16.encode, List.flatMap_cons, Utf16.encodeChar_of_lt (by omega), number]
  rfl

/-- Whether no byte opens a group of four. -/
def NoFour (bytes : List UInt8) : Prop :=
  ∀ byte ∈ bytes, byte.toNat < 0xF0

instance (bytes : List UInt8) : Decidable (NoFour bytes) :=
  List.decidableBAll _ bytes

theorem noFour_cons_iff {byte : UInt8} {rest : List UInt8} (small : byte.toNat < 0xF0) :
    NoFour (byte :: rest) ↔ NoFour rest :=
  List.forall_mem_cons.trans (and_iff_right small)

/-- A unit in front of units that are there on a condition. -/
theorem map_ite_some {whole rest : Prop} [Decidable whole] [Decidable rest]
    (same : whole ↔ rest) (unit : UInt16) (units : List UInt16) :
    (if rest then some units else none).map (unit :: ·) =
      if whole then some (unit :: units) else none := by
  by_cases holds : rest <;> simp [same, holds]

/-- Bytes that are plain UTF-8 spell the UTF-16 form of their text unit by unit, unless there
is a group of four among them: then they spell no units. -/
theorem units?_of_decode? {bytes : List UInt8} {text : List Char}
    (decoded : Utf8.decode? bytes = some text) :
    units? bytes = if NoFour bytes then some (Utf16.encode text) else none := by
  fun_induction Utf8.decode? bytes generalizing text with
  | case1 =>
      cases decoded
      rfl
  | case2 lead rest small induction =>
      rcases Option.map_eq_some_iff.mp decoded with ⟨following, found, rfl⟩
      have opens := (Utf8.isAscii_iff lead).mp small
      rw [units?_one rest opens, induction found, Utf8.charOfOne, encode_ofNat_cons _ (by omega)]
      exact map_ite_some (noFour_cons_iff (by omega)) _ _
  | case4 lead _ second rest accepted induction =>
      rcases Option.map_eq_some_iff.mp decoded with ⟨following, found, rfl⟩
      rw [Bool.and_eq_true, Utf8.opensTwo_iff] at accepted
      have range := (Utf8.isContinuation_iff second).mp accepted.2
      rw [units?_two rest (by omega) accepted.2, induction found, Utf8.charOfTwo_eq,
        encode_ofNat_cons _ (by omega)]
      exact map_ite_some ((noFour_cons_iff (by omega)).trans (noFour_cons_iff (by omega))) _ _
  | case6 lead _ second _ third rest accepted induction =>
      rcases Option.map_eq_some_iff.mp decoded with ⟨following, found, rfl⟩
      rw [Bool.and_eq_true, Utf8.opensThree_iff] at accepted
      have range := (Utf8.isContinuation_iff second).mp accepted.1.1
      have ends := (Utf8.isContinuation_iff third).mp accepted.2
      rw [units?_three rest (by omega) accepted.1.1 accepted.2, induction found,
        Utf8.charOfThree_eq, encode_ofNat_cons _ (by omega)]
      exact map_ite_some ((noFour_cons_iff (by omega)).trans
        ((noFour_cons_iff (by omega)).trans (noFour_cons_iff (by omega)))) _ _
  | case8 lead _ second _ third _ fourth rest accepted _ =>
      rw [Bool.and_eq_true, Bool.and_eq_true, Utf8.opensFour_iff] at accepted
      have large : 0xF0 ≤ lead.toNat := by omega
      have four : ¬ NoFour (lead :: second :: third :: fourth :: rest) :=
        fun noFour => Nat.not_lt.mpr large (noFour lead List.mem_cons_self)
      rw [units?_four _ large, if_neg four]
  | case3 | case5 | case7 | case9 => cases decoded

/-- A constant that is written unit by unit is read if and only if the units are those of
a text. -/
theorem decode?_encodeUnits (units : List UInt16) :
    decode? (encodeUnits units) = Utf16.decode? units := by
  rw [decode?]
  split
  case h_1 text decoded =>
    have noFour : NoFour (encodeUnits units) := by
      intro byte member
      rcases List.mem_flatMap.mp member with ⟨unit, _, inUnit⟩
      exact (range_of_mem_encodeUnit inUnit).2
    have same := units?_of_decode? decoded
    rw [if_pos noFour, units?_encodeUnits, Option.some.injEq] at same
    rw [same, Utf16.decode?_encode]
  case h_2 => rw [decodeUnits?, units?_encodeUnits, Option.bind_some]

theorem decode?_encode (text : List Char) : decode? (encode text) = some text := by
  rw [encode, decode?_encodeUnits, Utf16.decode?_encode]

theorem decode?_utf8 (text : List Char) : decode? (Utf8.encode text) = some text := by
  rw [decode?, Utf8.decode?_encode]

end TypeTokenWrappers.ModifiedUtf8
