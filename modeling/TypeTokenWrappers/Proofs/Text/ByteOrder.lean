import TypeTokenWrappers.Proofs.Text.Utf8

/-! # The order of texts and of their bytes

Texts are compared character by character, by the numbers of the characters. Their bytes in
UTF-8 are in the same order: the longer groups begin with the greater bytes, and groups of one
length hold the digits of the number, the highest first. -/

namespace TypeTokenWrappers.Utf8

theorem ofNat_cons_lt_iff {first second : Nat} (small : first < 256) (small' : second < 256)
    (rest rest' : List UInt8) :
    UInt8.ofNat first :: rest < UInt8.ofNat second :: rest' ↔
      first < second ∨ first = second ∧ rest < rest' := by
  rw [List.cons_lt_cons_iff, UInt8.lt_iff_toNat_lt, ← UInt8.toNat_inj,
    UInt8.toNat_ofNat_of_lt' small, UInt8.toNat_ofNat_of_lt' small']

/-- The group of a smaller character is smaller, whatever follows the groups. -/
theorem encodeChar_append_lt {char other : Char} (less : char < other) (rest rest' : List UInt8) :
    String.utf8EncodeChar char ++ rest < String.utf8EncodeChar other ++ rest' := by
  have number : char.val.toNat < other.val.toNat := less
  have bound : other.val.toNat < 0x110000 := by
    rcases toNat_ranges other with small | large
    · exact Nat.lt_trans small (by decide)
    · exact large.2
  -- In each of the sixteen cases the lengths of the groups are known, and with them all digits.
  fun_cases String.utf8EncodeChar char <;> fun_cases String.utf8EncodeChar other
  all_goals
    simp (disch := omega) only [List.cons_append, List.nil_append, ofNat_cons_lt_iff]
  case case4.case4 value _ _ _ value' _ _ _ =>
    have digits (value : Nat) :
        value / 64 / 64 = value / 4096 ∧ value / 4096 / 64 = value / 262144 :=
      ⟨Nat.div_div_eq_div_mul .., Nat.div_div_eq_div_mul ..⟩
    have ofChar := digits value
    have ofOther := digits value'
    have lead : value / 262144 % 8 = value / 262144 := Nat.mod_eq_of_lt (by omega)
    have lead' : value' / 262144 % 8 = value' / 262144 := Nat.mod_eq_of_lt (by omega)
    omega
  all_goals omega

theorem encode_lt_encode {text other : List Char} (less : text < other) :
    encode text < encode other := by
  induction less with
  | @nil char rest =>
      rcases List.exists_cons_of_ne_nil (@String.utf8EncodeChar_ne_nil char) with
        ⟨lead, others, group⟩
      rw [encode, encode, List.flatMap_cons, group]
      exact List.nil_lt_cons _ _
  | rel less => exact encodeChar_append_lt less _ _
  | cons _ induction => exact List.append_left_lt induction

theorem encodeString_lt_encodeString {text other : String} (less : text < other) :
    encodeString text < encodeString other :=
  encode_lt_encode less

end TypeTokenWrappers.Utf8
