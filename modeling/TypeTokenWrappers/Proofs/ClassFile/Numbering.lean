import TypeTokenWrappers.Proofs.ClassFile.Pool

/-! # The numbers of the constant pool

A constant has the number behind those that the constants in front of it take.
This tells which numbers name a constant, and that each names one at most. -/

namespace TypeTokenWrappers.ClassFile

/-- A number names a constant. -/
def Holds (constants : List RawConstant) (index : UInt16) (constant : RawConstant) : Prop :=
  ∃ before after, constants = before ++ constant :: after ∧
    index.toNat = totalWidth before + 1

theorem length_numbers (constant : RawConstant) : constant.numbers.length = constant.width := by
  rw [RawConstant.numbers, RawConstant.width]
  cases constant.wide <;> rfl

theorem slots_false_cons (first : RawConstant) (constants : List RawConstant) :
    slots false (first :: constants) = first.numbers ++ slots false constants := rfl

theorem join_getElem?_numbers {constant found : RawConstant} {number : Nat} :
    constant.numbers[number]?.join = some found ↔ number = 0 ∧ constant = found := by
  rw [RawConstant.numbers]
  cases constant.wide <;> rcases number with _ | _ | number <;> simp

theorem join_getElem?_slots {constants : List RawConstant} {number : Nat}
    {constant : RawConstant} :
    (slots false constants)[number]?.join = some constant ↔
      ∃ before after, constants = before ++ constant :: after ∧ number = totalWidth before := by
  induction constants generalizing number with
  | nil => simp [slots]
  | cons first constants induction =>
      have widths (others : List RawConstant) :
          totalWidth (first :: others) = first.width + totalWidth others := rfl
      have positive : 0 < first.width := by
        rw [RawConstant.width]
        split <;> decide
      rw [slots_false_cons, List.getElem?_append, length_numbers]
      split
      case isTrue within =>
        rw [join_getElem?_numbers]
        constructor
        · rintro ⟨rfl, rfl⟩
          exact ⟨[], constants, rfl, rfl⟩
        · rintro ⟨before, after, equal, rfl⟩
          cases before with
          | nil =>
              cases equal
              exact ⟨rfl, rfl⟩
          | cons head before =>
              cases equal
              rw [widths] at within
              omega
      case isFalse beyond =>
        rw [induction]
        constructor
        · rintro ⟨before, after, rfl, position⟩
          refine ⟨first :: before, after, rfl, ?_⟩
          rw [widths]
          omega
        · rintro ⟨before, after, equal, rfl⟩
          cases before with
          | nil => exact absurd positive beyond
          | cons head before =>
              cases equal
              refine ⟨before, after, rfl, ?_⟩
              rw [widths]
              omega

theorem join_getElem?_numbered {constants : List RawConstant} {index : UInt16}
    {constant : RawConstant} :
    (numbered constants)[index.toNat]?.join = some constant ↔
      Holds constants index constant := by
  rw [numbered_eq, Holds]
  cases position : index.toNat with
  | zero => simp
  | succ number =>
      rw [List.getElem?_cons_succ, join_getElem?_slots]
      simp only [Nat.add_right_cancel_iff]

theorem constant?_eq_some_iff {raw : RawClass} {index : UInt16} {constant : RawConstant} :
    raw.constant? index = some constant ↔ Holds raw.constants index constant :=
  join_getElem?_numbered

namespace Holds

variable {constants : List RawConstant} {index : UInt16} {constant : RawConstant}

theorem mem (holds : Holds constants index constant) : constant ∈ constants := by
  rcases holds with ⟨before, after, rfl, _⟩
  exact List.mem_append_right before (List.mem_cons_self ..)

theorem ne_zero (holds : Holds constants index constant) : index ≠ 0 := by
  rcases holds with ⟨before, after, _, position⟩
  rintro rfl
  cases position

theorem functional {other : RawConstant} (holds : Holds constants index constant)
    (another : Holds constants index other) : constant = other := by
  apply Option.some.inj
  rw [← join_getElem?_numbered.mpr holds, ← join_getElem?_numbered.mpr another]

theorem lt_count {count : Nat} (fill : Fill count constants)
    (holds : Holds constants index constant) : index.toNat < count := by
  have found := join_getElem?_numbered.mpr holds
  rcases holds with ⟨_, _, _, position⟩
  apply Nat.lt_of_not_le
  intro beyond
  rw [join_getElem?_numbered_eq_none fill (by omega)] at found
  cases found

/-- The second number of a wide constant names nothing. -/
theorem not_second {second : UInt16} {other : RawConstant}
    (holds : Holds constants index constant) (wide : constant.wide = true)
    (behind : second.toNat = index.toNat + 1) : ¬ Holds constants second other := by
  intro named
  have found := join_getElem?_numbered.mpr named
  rcases holds with ⟨before, after, rfl, position⟩
  have split : slots false (before ++ constant :: after) =
      slots false before ++ (some constant :: none :: slots false after) := by
    simp [slots, RawConstant.numbers, wide]
  have place : second.toNat = (slots false before).length + 1 + 1 := by
    rw [length_slots]
    omega
  rw [numbered_eq, split, place, List.getElem?_cons_succ,
    List.getElem?_append_right (Nat.le_add_right _ 1), Nat.add_sub_cancel_left] at found
  cases found

end Holds

end TypeTokenWrappers.ClassFile
