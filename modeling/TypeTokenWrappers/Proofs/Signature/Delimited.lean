import TypeTokenWrappers.Proofs.Signature.Accepted

/-! # Where a section ends

A section of type parameters tells by itself where it ends. What follows it, well formed or
not, has no part in what is declared, and a piece cut from its front is never taken for a
whole section. -/

namespace TypeTokenWrappers.Signature

/-- Whether `front` is what a signature begins with and what decides that these parameters are
declared: whatever follows it, and not if it is cut off anywhere. -/
structure Delimits (signature : String) (declared : List TypeParameter) (front : String) :
    Prop where
  begins : ∃ rest, signature = front ++ rest
  decides : ∀ text, typeParameters (front ++ text) = .ok declared
  least : ∀ cut rest, signature = cut ++ rest → 1 ≤ cut.utf8ByteSize →
    cut.utf8ByteSize < front.utf8ByteSize → ∃ error, typeParameters cut = .error error

variable {signature front : String} {declared : List TypeParameter}

/-- What a signature begins with opens a section if the signature does. -/
theorem head?_of_begins {rest : String} (opened : signature.toList.head? = some '<')
    (begins : signature = front ++ rest) (nonempty : 1 ≤ front.utf8ByteSize) :
    front.toList.head? = some '<' := by
  cases chars : front.toList with
  | nil =>
      rw [String.toList_eq_nil_iff.mp chars] at nonempty
      simp at nonempty
  | cons first others =>
      rw [begins, String.toList_append, chars] at opened
      exact opened

/-- A cut that is read holds the whole section. -/
theorem section_le_of_read {parameters : List Parameter} {rest cut behind : String}
    (readable : SectionReadable parameters)
    (whole : signature = String.ofList (sectionText parameters) ++ rest)
    (split : signature = cut ++ behind) (nonempty : 1 ≤ cut.utf8ByteSize)
    {other : List TypeParameter} (read : typeParameters cut = .ok other) :
    (String.ofList (sectionText parameters)).utf8ByteSize ≤ cut.utf8ByteSize := by
  have opened : signature.toList.head? = some '<' := by
    rw [whole, String.toList_append, String.toList_ofList, sectionText_append]
    rfl
  rcases typeParameters_eq_ok_iff.mp read with unopened | accepted
  · exact absurd (head?_of_begins opened split nonempty) unopened.1
  · obtain ⟨others, after, othersReadable, cutText, _⟩ := accepted
    have same : sectionText parameters ++ rest.toList =
        sectionText others ++ (after ++ behind.toList) := by
      have chars := congrArg String.toList (whole.symm.trans split)
      simpa [cutText] using chars
    obtain ⟨rfl, _⟩ := eq_of_sectionText_append readable othersReadable same
    have cutWhole : cut = String.ofList (sectionText parameters) ++ String.ofList after := by
      rw [← String.ofList_append, ← cutText, String.ofList_toList]
    rw [cutWhole, String.utf8ByteSize_append]
    exact Nat.le_add_right _ _

/-- The section that a signature begins with delimits it. -/
theorem delimits_sectionText {parameters : List Parameter} {rest : String}
    (readable : SectionReadable parameters)
    (whole : signature = String.ofList (sectionText parameters) ++ rest) :
    Delimits signature (declaredParameters parameters)
      (String.ofList (sectionText parameters)) where
  begins := ⟨rest, whole⟩
  decides text := by
    apply typeParameters_eq_ok_iff.mpr
    exact .inr ⟨parameters, text.toList, readable, by simp, rfl⟩
  least cut behind split nonempty shorter := by
    cases read : typeParameters cut with
    | error error => exact ⟨error, rfl⟩
    | ok other =>
        have longer := section_le_of_read readable whole split nonempty read
        omega

theorem Delimits.nonempty (delimits : Delimits signature declared front) :
    1 ≤ front.utf8ByteSize := by
  by_contra empty
  have nothing : front = "" := String.utf8ByteSize_eq_zero_iff.mp (by omega)
  -- A section that is opened and not closed is refused.
  have read := delimits.decides "<"
  rw [nothing, String.empty_append] at read
  rcases typeParameters_eq_ok_iff.mp read with unopened | ⟨parameters, rest, _, chars, _⟩
  · exact absurd rfl unopened.1
  · rw [sectionText_append] at chars
    have size := congrArg List.length chars
    simp at size

/-- What delimits a signature is not longer than anything else that does. -/
theorem Delimits.size_le {other : String} (delimits : Delimits signature declared front)
    (also : Delimits signature declared other) : other.utf8ByteSize ≤ front.utf8ByteSize := by
  by_contra shorter
  obtain ⟨rest, begins⟩ := delimits.begins
  obtain ⟨error, refused⟩ := also.least front rest begins delimits.nonempty (by omega)
  have read := delimits.decides ""
  rw [String.append_empty, refused] at read
  cases read

/-- A signature that opens a section and is read has exactly one length at which it can be cut
without changing what it declares, whatever is put behind the cut, while every shorter piece of
it is refused. -/
theorem typeParameters_delimited (opened : signature.toList.head? = some '<')
    (read : typeParameters signature = .ok declared) :
    ∃! length, ∃ front, front.utf8ByteSize = length ∧ Delimits signature declared front := by
  rcases typeParameters_eq_ok_iff.mp read with unopened | accepted
  · exact absurd opened unopened.1
  · obtain ⟨parameters, rest, readable, chars, rfl⟩ := accepted
    have whole : signature = String.ofList (sectionText parameters) ++ String.ofList rest := by
      rw [← String.ofList_append, ← chars, String.ofList_toList]
    have delimits := delimits_sectionText readable whole
    refine ⟨_, ⟨_, rfl, delimits⟩, ?_⟩
    rintro _ ⟨other, rfl, also⟩
    exact Nat.le_antisymm (delimits.size_le also) (also.size_le delimits)

/-- A section with a name of two bytes, and behind it what belongs to no signature. -/
def trailedSignature : String :=
  "<É:LA<*>;>)<:"

theorem typeParameters_delimited_trailedSignature :
    trailedSignature.toList.head? = some '<' ∧
    typeParameters trailedSignature = .ok [⟨"É", none⟩] ∧
    ∃! length, ∃ front, front.utf8ByteSize = length ∧
      Delimits trailedSignature [⟨"É", none⟩] front := by
  have opened : trailedSignature.toList.head? = some '<' := by cbv
  have read : typeParameters trailedSignature = .ok [⟨"É", none⟩] := by cbv
  exact ⟨opened, read, typeParameters_delimited opened read⟩

end TypeTokenWrappers.Signature
