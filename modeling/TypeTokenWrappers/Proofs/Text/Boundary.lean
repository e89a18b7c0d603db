import TypeTokenWrappers.Descriptor.Reader
import TypeTokenWrappers.Proofs.Text.Taken
import TypeTokenWrappers.Proofs.Text.Utf8

/-! # Boundaries between characters

A position in the bytes of a text is a boundary if a part of the text ends there. The byte that
is ahead at a boundary tells a character of one byte from all others. -/

namespace TypeTokenWrappers

namespace Utf8

variable {char : Char}

theorem encode_append (front rest : List Char) :
    encode (front ++ rest) = encode front ++ encode rest :=
  List.flatMap_append

theorem encode_cons (char : Char) (rest : List Char) :
    encode (char :: rest) = String.utf8EncodeChar char ++ encode rest :=
  List.flatMap_cons

theorem length_encode (text : List Char) : (encode text).length = byteLength text := by
  induction text with
  | nil => rfl
  | cons first text induction =>
      rw [encode, List.flatMap_cons, List.length_append, String.length_utf8EncodeChar,
        byteLength]
      exact congrArg _ induction

theorem byteLength_pos {piece : List Char} (filled : piece ≠ []) :
    0 < byteLength piece := by
  cases piece with
  | nil => exact absurd rfl filled
  | cons first piece =>
      rw [byteLength]
      exact Nat.add_pos_left first.utf8Size_pos _

/-- A character of one byte is that byte. -/
theorem encodeChar_of_ascii (ascii : char.toNat < 128) :
    String.utf8EncodeChar char = [UInt8.ofNat char.toNat] := by
  fun_cases String.utf8EncodeChar char with
  | case1 => rfl
  | case2 value large | case3 value large | case4 value large =>
      have value_eq : value = char.toNat := rfl
      omega

/-- All bytes of other characters are greater. -/
theorem le_of_mem_encodeChar (other : ¬ char.toNat < 128) :
    ∀ byte ∈ String.utf8EncodeChar char, 128 ≤ byte.toNat := by
  have number (value : Nat) (range : 128 ≤ value ∧ value < 256) :
      128 ≤ (UInt8.ofNat value).toNat := by
    rw [UInt8.toNat_ofNat_of_lt' (show value < 256 from range.2)]
    exact range.1
  fun_cases String.utf8EncodeChar char with
  | case1 value small =>
      have value_eq : value = char.toNat := rfl
      omega
  | case2 | case3 | case4 =>
      repeat refine List.forall_mem_cons.mpr ⟨number _ (by omega), ?_⟩
      exact nofun

end Utf8

namespace Cursor

open Utf8
open Descriptor (leadByte)

/-! ## The first byte of a character -/

section Lead

variable {char : Char}

/-- The first byte of a character is no continuation. -/
theorem exists_lead (char : Char) :
    ∃ lead others, String.utf8EncodeChar char = lead :: others ∧
      Utf8.isContinuation lead = false ∧ leadByte char = Char.ofNat lead.toNat := by
  have lead (value : Nat) (range : value < 128 ∨ 192 ≤ value ∧ value < 256) :
      Utf8.isContinuation (UInt8.ofNat value) = false := by
    have small : value < 256 := by omega
    rw [Bool.eq_false_iff, ne_eq, Utf8.isContinuation_iff, UInt8.toNat_ofNat_of_lt' small]
    omega
  rw [leadByte]
  fun_cases String.utf8EncodeChar char
  all_goals
    refine ⟨_, _, rfl, lead _ ?_, rfl⟩
    omega

theorem leadByte_of_ascii (ascii : char.toNat < 128) : leadByte char = char := by
  rw [leadByte, encodeChar_of_ascii ascii, List.head?_cons, Option.map_some, Option.getD_some,
    UInt8.toNat_ofNat_of_lt' (Nat.lt_trans ascii (by decide)), Char.ofNat_toNat]

/-- A byte that is the number of a character below 128 is that character. -/
theorem leadByte_eq_iff {other : Char} (ascii : char.toNat < 128) :
    leadByte other = char ↔ other = char := by
  constructor
  · rintro rfl
    by_cases small : other.toNat < 128
    · rw [leadByte_of_ascii small]
    · rcases exists_lead other with ⟨lead, others, group, _, first⟩
      have large := le_of_mem_encodeChar small lead (group ▸ List.mem_cons_self)
      have byte := lead.toNat_lt
      rw [first, Utf8.toNat_charOfNat (by omega)] at ascii
      omega
  · rintro rfl
    exact leadByte_of_ascii ascii

theorem letter_ascii (kind : Primitive) : kind.letter.toNat < 128 := by
  cases kind <;> decide

theorem ofLetter?_leadByte (char : Char) :
    Primitive.ofLetter? (leadByte char) = Primitive.ofLetter? char := by
  apply Option.ext
  intro kind
  constructor
  · intro found
    have letter := (leadByte_eq_iff (letter_ascii kind)).mp (Primitive.letter_of_ofLetter? found)
    rw [letter, Primitive.ofLetter?_letter]
  · intro found
    rw [Primitive.letter_of_ofLetter? found, leadByte_of_ascii (letter_ascii kind),
      Primitive.ofLetter?_letter]

end Lead

/-! ## Positions -/

/-- Where a character begins, or the text ends. -/
def isBoundary (bytes : List UInt8) (position : Nat) : Bool :=
  position == 0 || position == bytes.length ||
    (bytes[position]?).any fun byte => !Utf8.isContinuation byte

/-- The position where a part of the text ends. -/
def Boundary (text : List Char) (position : Nat) : Prop :=
  ∃ front, front <+: text ∧ position = Utf8.byteLength front

section Positions

variable {text rest left : List Char} {char : Char}

theorem exists_front (within : rest <:+ text) :
    ∃ front, text = front ++ rest ∧ bytesBefore text rest = Utf8.byteLength front := by
  rcases within with ⟨front, rfl⟩
  exact ⟨front, rfl, by rw [bytesBefore_append, byteLength_eq]⟩

theorem boundary_bytesBefore (within : rest <:+ text) : Boundary text (bytesBefore text rest) := by
  rcases exists_front within with ⟨front, rfl, position⟩
  exact ⟨front, List.prefix_append front rest, position⟩

theorem bytesBefore_append_left (within : left ++ rest <:+ text) :
    bytesBefore text rest = bytesBefore text (left ++ rest) + Utf8.byteLength left := by
  rcases within with ⟨front, rfl⟩
  simp only [bytesBefore, Utf8.byteLength_append]
  omega

/-- Going on in the text goes on in its bytes. -/
theorem bytesBefore_lt (within : rest <:+ text) (behind : left <:+ rest)
    (shorter : left.length < rest.length) :
    bytesBefore text rest < bytesBefore text left := by
  rcases behind with ⟨piece, rfl⟩
  have filled : piece ≠ [] := by
    rintro rfl
    exact absurd shorter (Nat.lt_irrefl _)
  rw [bytesBefore_append_left within]
  exact Nat.lt_add_of_pos_right (byteLength_pos filled)

theorem bytesBefore_cons (ascii : char.toNat < 128) (within : char :: left <:+ text) :
    bytesBefore text left = bytesBefore text (char :: left) + 1 := by
  have size : Utf8.byteLength [char] = 1 := by
    rw [← length_encode, Utf8.encode, List.flatMap_singleton, encodeChar_of_ascii ascii]
    rfl
  have whole : [char] ++ left <:+ text := within
  rw [bytesBefore_append_left whole, size]
  rfl

theorem ahead_eq_some_iff (ascii : char.toNat < 128) :
    rest.head?.map leadByte = some char ↔ ∃ left, rest = char :: left := by
  cases rest with
  | nil => simp
  | cons first rest => simp [leadByte_eq_iff ascii]

theorem drop_encode (within : rest <:+ text) :
    (Utf8.encode text).drop (bytesBefore text rest) = Utf8.encode rest := by
  rcases exists_front within with ⟨front, rfl, position⟩
  rw [position, ← length_encode, encode_append]
  exact List.drop_left

theorem getElem?_encode (within : rest <:+ text) :
    (Utf8.encode text)[bytesBefore text rest]? = (Utf8.encode rest).head? := by
  rw [← List.head?_drop, drop_encode within]

theorem isBoundary_bytesBefore (within : rest <:+ text) :
    isBoundary (Utf8.encode text) (bytesBefore text rest) = true := by
  cases rest with
  | nil =>
      have last : bytesBefore text [] = (Utf8.encode text).length := (length_encode text).symm
      simp [isBoundary, last]
  | cons char rest =>
      rcases exists_lead char with ⟨lead, others, group, begins, _⟩
      rw [isBoundary, getElem?_encode within, encode_cons, group]
      simp [begins]

end Positions

end Cursor

end TypeTokenWrappers
