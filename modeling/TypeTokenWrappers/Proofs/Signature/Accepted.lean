import TypeTokenWrappers.Proofs.Signature.Declared
import TypeTokenWrappers.Proofs.Signature.Section

/-! # What an accepted signature begins with

Nothing is declared by text that is no section of type parameters. Where a signature
opens a section and is read, the section stands there, in one way only, and what is
declared is what it says. -/

namespace TypeTokenWrappers.Signature

open Taken

/-- A text begins with one section at most. -/
theorem eq_of_sectionText_append {parameters others : List Parameter} {rest behind : List Char}
    (readable : SectionReadable parameters) (othersReadable : SectionReadable others)
    (same : sectionText parameters ++ rest = sectionText others ++ behind) :
    parameters = others ∧ rest = behind := by
  rw [sectionText_append, sectionText_append] at same
  exact eq_of_layout reads_readParameters readable othersReadable (List.cons.inj same).2

/-- If a signature that opens a section is read, it begins with a section that can be
read, and with no other. Its names are declared by first occurrence, with the bounds of
the last one; there is at least one name, and none twice. -/
theorem typeParameters_of_opened {signature : String} {declared : List TypeParameter}
    (opened : signature.toList.head? = some '<')
    (read : typeParameters signature = .ok declared) :
    (∃ parameters rest, SectionReadable parameters ∧
      signature.toList = sectionText parameters ++ rest ∧
      (∀ others behind, SectionReadable others →
        signature.toList = sectionText others ++ behind → others = parameters) ∧
      declared = (parameters.map (·.name)).eraseDups.map fun name =>
        ⟨name, if lastBounds parameters name = [] then none
          else some (", ".intercalate (lastBounds parameters name))⟩) ∧
    declared ≠ [] ∧ (declared.map (·.name)).Nodup := by
  rcases typeParameters_eq_ok_iff.mp read with unopened | accepted
  · exact absurd opened unopened.1
  · rcases accepted with ⟨parameters, rest, readable, whole, rfl⟩
    refine ⟨⟨parameters, rest, readable, whole, ?_, ?_⟩, ?_, ?_⟩
    · intro others behind othersReadable otherwise
      exact (eq_of_sectionText_append othersReadable readable
        (otherwise.symm.trans whole)).1
    · simp only [declaredParameters_eq, typeParameter_eq]
    · exact declaredParameters_ne_nil readable.nonempty
    · rw [names_declaredParameters]
      exact nodup_eraseDups _

/-- A name that holds a `>`, and one that is declared again with other bounds, which have
types among their arguments. -/
def repeatedSignature : String :=
  "<T::LA<*>;U>:[IT::La/B<Lc/D<*>;+[Le/F;>.G<-Lh/I;>;>()V"

theorem typeParameters_of_opened_repeatedSignature :
    repeatedSignature.toList.head? = some '<' ∧
    typeParameters repeatedSignature = .ok [⟨"T", some "a.B, c.D, e.F, h.I"⟩, ⟨"U>", none⟩] ∧
    ∃ parameters rest, SectionReadable parameters ∧
      repeatedSignature.toList = sectionText parameters ++ rest ∧
      (∀ others behind, SectionReadable others →
        repeatedSignature.toList = sectionText others ++ behind → others = parameters) ∧
      [⟨"T", some "a.B, c.D, e.F, h.I"⟩, ⟨"U>", none⟩] = (parameters.map (·.name)).eraseDups.map fun name =>
        TypeParameter.mk name (if lastBounds parameters name = [] then none
          else some (", ".intercalate (lastBounds parameters name))) := by
  have opened : repeatedSignature.toList.head? = some '<' := by cbv
  have read : typeParameters repeatedSignature =
      .ok [⟨"T", some "a.B, c.D, e.F, h.I"⟩, ⟨"U>", none⟩] := by cbv
  exact ⟨opened, read, (typeParameters_of_opened opened read).1⟩

end TypeTokenWrappers.Signature
