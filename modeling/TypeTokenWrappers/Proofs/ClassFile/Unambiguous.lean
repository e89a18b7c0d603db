import TypeTokenWrappers.Proofs.ClassFile.Pool

/-! # The layout can be taken in one way only

Each part of a class file tells from its own bytes where it ends, so no other parts
that fit have the same bytes, whatever stands behind them. -/

namespace TypeTokenWrappers.ClassFile

/-- The bytes of a value tell the value and where they end. -/
def Unambiguous (Fits : α → Prop) (bytesOf : α → List UInt8) : Prop :=
  ∀ {first second front back}, Fits first → Fits second →
    bytesOf first ++ front = bytesOf second ++ back → first = second ∧ front = back

theorem unambiguous_number (count : Nat) :
    Unambiguous (· < 256 ^ count) (bytesOfNumber count) := by
  intro first second front back firstFits secondFits same
  have split := List.append_inj same (by simp)
  refine ⟨?_, split.2⟩
  rw [← bigEndian_bytesOfNumber firstFits, split.1, bigEndian_bytesOfNumber secondFits]

theorem unambiguous_index : Unambiguous (fun _ => True) bytesOfIndex := by
  intro first second front back _ _ same
  have number := unambiguous_number 2 first.toNat_lt second.toNat_lt same
  exact ⟨UInt16.toNat_inj.mp number.1, number.2⟩

/-! ## Tables -/

theorem Unambiguous.flatMap {Fits : α → Prop} {bytesOf : α → List UInt8}
    (item : Unambiguous Fits bytesOf) {items others : List α} {front back : List UInt8}
    (length : items.length = others.length) (itemsFit : ∀ item ∈ items, Fits item)
    (othersFit : ∀ item ∈ others, Fits item)
    (same : items.flatMap bytesOf ++ front = others.flatMap bytesOf ++ back) :
    items = others ∧ front = back := by
  induction items generalizing others with
  | nil =>
      have empty : others = [] := List.eq_nil_of_length_eq_zero length.symm
      subst empty
      exact ⟨rfl, same⟩
  | cons first items induction =>
      cases others with
      | nil => cases length
      | cons second others =>
          rw [List.forall_mem_cons] at itemsFit othersFit
          rw [List.flatMap_cons, List.flatMap_cons, List.append_assoc, List.append_assoc] at same
          have heads := item itemsFit.1 othersFit.1 same
          have tails := induction (Nat.succ.inj length) itemsFit.2 othersFit.2 heads.2
          exact ⟨by rw [heads.1, tails.1], tails.2⟩

theorem Unambiguous.table {Fits : α → Prop} {bytesOf : α → List UInt8}
    (item : Unambiguous Fits bytesOf) :
    Unambiguous (fun items => items.length < 0x10000 ∧ ∀ item ∈ items, Fits item)
      (bytesOfTable bytesOf) := by
  intro items others front back itemsFit othersFit same
  rw [bytesOfTable, bytesOfTable, List.append_assoc, List.append_assoc] at same
  have count := unambiguous_number 2 itemsFit.1 othersFit.1 same
  exact item.flatMap count.1 itemsFit.2 othersFit.2 count.2

/-! ## Constants -/

theorem ConstantKind.tag_injective {kind other : ConstantKind} (same : kind.tag = other.tag) :
    kind = other := by
  cases kind <;> cases other <;> first | rfl | cases same

theorem ConstantKind.tag_ne (kind : ConstantKind) : kind.tag ≠ 1 ∧ kind.tag ≠ 7 := by
  cases kind <;> decide

theorem unambiguous_constant : Unambiguous RawConstant.Fits RawConstant.bytes := by
  intro first second front back firstFits secondFits same
  rw [RawConstant.bytes_eq, RawConstant.bytes_eq, List.cons_append, List.cons_append,
    List.cons.injEq] at same
  rcases same with ⟨tags, bodies⟩
  cases first with
  | text content =>
      cases second with
      | text other =>
          rw [RawConstant.body, RawConstant.body, List.append_assoc, List.append_assoc] at bodies
          have lengths := unambiguous_number 2 firstFits secondFits bodies
          have contents := List.append_inj lengths.2 lengths.1
          exact ⟨by rw [contents.1], contents.2⟩
      | classReference => cases tags
      | other kind => exact absurd tags.symm kind.tag_ne.1
  | classReference nameIndex =>
      cases second with
      | text => cases tags
      | classReference other =>
          have indices := unambiguous_index trivial trivial bodies
          exact ⟨by rw [indices.1], indices.2⟩
      | other kind => exact absurd tags.symm kind.tag_ne.2
  | other kind content =>
      cases second with
      | text => exact absurd tags kind.tag_ne.1
      | classReference => exact absurd tags kind.tag_ne.2
      | other another other =>
          have kinds := ConstantKind.tag_injective tags
          subst kinds
          have contents := List.append_inj bodies (firstFits.trans secondFits.symm)
          exact ⟨congrArg _ contents.1, contents.2⟩

/-- Constants that fill as many numbers are as many. -/
theorem constants_inj {second : Bool} {remaining : Nat} {constants others : List RawConstant}
    {front back : List UInt8} (fit : ∀ raw ∈ constants, raw.Fits)
    (othersFit : ∀ raw ∈ others, raw.Fits) (covers : Covers remaining (slots second constants))
    (othersCover : Covers remaining (slots second others))
    (same : constants.flatMap RawConstant.bytes ++ front =
      others.flatMap RawConstant.bytes ++ back) :
    constants = others ∧ front = back := by
  induction remaining generalizing second constants others with
  | zero =>
      rw [eq_nil_of_covers_zero covers, eq_nil_of_covers_zero othersCover] at same
      rw [eq_nil_of_covers_zero covers, eq_nil_of_covers_zero othersCover]
      exact ⟨rfl, same⟩
  | succ remaining induction =>
      cases second with
      | true =>
          have tail : ∀ constants, slots true constants = none :: slots false constants :=
            fun _ => rfl
          rw [tail, covers_cons] at covers othersCover
          exact induction fit othersFit covers othersCover same
      | false =>
          cases constants with
          | nil => simp [slots, Covers] at covers
          | cons raw constants =>
              cases others with
              | nil => simp [slots, Covers] at othersCover
              | cons other others =>
                  rw [List.forall_mem_cons] at fit othersFit
                  rw [slots_cons, covers_cons] at covers othersCover
                  rw [List.flatMap_cons, List.flatMap_cons, List.append_assoc,
                    List.append_assoc] at same
                  have heads := unambiguous_constant fit.1 othersFit.1 same
                  rw [← heads.1] at othersCover
                  have tails := induction fit.2 othersFit.2 covers othersCover heads.2
                  exact ⟨by rw [heads.1, tails.1], tails.2⟩

/-! ## Members and classes -/

theorem unambiguous_attribute : Unambiguous RawAttribute.Fits RawAttribute.bytes := by
  intro first second front back firstFits secondFits same
  simp only [RawAttribute.bytes, List.append_assoc] at same
  have indices := unambiguous_index trivial trivial same
  have lengths := unambiguous_number 4 firstFits secondFits indices.2
  have contents := List.append_inj lengths.2 lengths.1
  cases first
  cases second
  exact ⟨by congr 1; exacts [indices.1, contents.1], contents.2⟩

theorem unambiguous_member :
    Unambiguous (fun member => AttributesFit member.attributes) RawMember.bytes := by
  intro first second front back firstFits secondFits same
  simp only [RawMember.bytes, List.append_assoc] at same
  have accesses := unambiguous_index trivial trivial same
  have names := unambiguous_index trivial trivial accesses.2
  have descriptors := unambiguous_index trivial trivial names.2
  have attributes := unambiguous_attribute.table firstFits secondFits descriptors.2
  cases first
  cases second
  exact ⟨by congr 1; exacts [accesses.1, names.1, descriptors.1, attributes.1], attributes.2⟩

theorem unambiguous_class : Unambiguous RawClass.Fits RawClass.bytes := by
  intro first second front back firstFits secondFits same
  simp only [RawClass.bytes, List.append_assoc, List.cons_append, List.nil_append,
    List.cons.injEq, true_and] at same
  have minors := unambiguous_index trivial trivial same
  have majors := unambiguous_index trivial trivial minors.2
  have counts := unambiguous_index trivial trivial majors.2
  have fill := (fill_iff _ _).mp firstFits.count
  rw [counts.1] at fill
  have constants := constants_inj firstFits.constants secondFits.constants fill
    ((fill_iff _ _).mp secondFits.count) counts.2
  have accesses := unambiguous_index trivial trivial constants.2
  have names := unambiguous_index trivial trivial accesses.2
  have supers := unambiguous_index trivial trivial names.2
  have interfaces := unambiguous_index.table ⟨firstFits.interfaces, fun _ _ => trivial⟩
    ⟨secondFits.interfaces, fun _ _ => trivial⟩ supers.2
  have fields := unambiguous_member.table firstFits.fields secondFits.fields interfaces.2
  have methods := unambiguous_member.table firstFits.methods secondFits.methods fields.2
  have attributes :=
    unambiguous_attribute.table firstFits.attributes secondFits.attributes methods.2
  cases first
  cases second
  refine ⟨?_, attributes.2⟩
  congr 1
  exacts [minors.1, majors.1, counts.1, constants.1, accesses.1, names.1, supers.1,
    interfaces.1, fields.1, methods.1, attributes.1]

end TypeTokenWrappers.ClassFile
