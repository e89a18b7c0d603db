import Mathlib.Data.List.Chain
import TypeTokenWrappers.Proofs.Signature.ReferenceType

/-! # Reading the section of type parameters

Nothing separates type parameters, so the reader goes on as long as it can. Where
one parameter ends is decided by how the next one begins; parameters can be told
apart if no beginning is taken for something else. -/

namespace TypeTokenWrappers.Signature

open Taken

namespace Parameter

structure Readable (parameter : Parameter) : Prop where
  name : Named endsParameterName parameter.name
  classBound : ∀ bound ∈ parameter.classBound, bound.Readable
  interfaceBounds : ∀ bound ∈ parameter.interfaceBounds, bound.Readable

/-- Whether a parameter ends where this text begins. -/
structure EndsAt (parameter : Parameter) (text : List Char) : Prop where
  noBound : text.head? ≠ some ':'
  noClassBound : parameter.classBound = none → parameter.interfaceBounds = [] →
    ∀ char ∈ text.head?, ¬ Opens char

/-- Whether a parameter can be told from the one behind it. -/
def Before (parameter next : Parameter) : Prop :=
  next.name.toList.head? ≠ some '>' ∧ parameter.EndsAt next.text

end Parameter

/-- Whether the printed section can be read back. -/
structure SectionReadable (parameters : List Parameter) : Prop where
  nonempty : parameters ≠ []
  readable : ∀ parameter ∈ parameters, parameter.Readable
  separate : parameters.IsChain Parameter.Before

/-! ## Bounds -/

theorem opens_iff {char : Char} :
    (char == 'L' || char == 'T' || char == '[') = true ↔ Opens char := by
  simp [Opens, or_assoc]

theorem reads_readClassBound {text rest : List Char} {bound : Option ReferenceType} :
    Reads (readClassBound text) bound rest ↔
      (∀ type ∈ bound, type.Readable) ∧
        text = (bound.map ReferenceType.text).getD [] ++ rest ∧
        (bound = none → ∀ char ∈ rest.head?, ¬ Opens char) := by
  cases text with
  | nil =>
      rw [readClassBound, reads_ok_iff]
      constructor
      · rintro ⟨rfl, rfl⟩
        exact ⟨nofun, rfl, fun _ => nofun⟩
      · rintro ⟨_, whole, _⟩
        cases bound with
        | none => exact ⟨rfl, whole⟩
        | some type =>
            rcases type.exists_text_eq_cons with ⟨_, _, begins, _⟩
            rw [Option.map_some, Option.getD_some, begins] at whole
            cases whole
  | cons first text =>
      rw [readClassBound]
      split
      case isTrue opens =>
        refine Iff.trans (reads_map_iff some (fun _ => rfl) fun _ => rfl) ?_
        simp only [reads_readReferenceType]
        constructor
        · rintro ⟨type, ⟨readable, whole⟩, rfl⟩
          exact ⟨fun _ member => Option.some.inj member ▸ readable, whole, nofun⟩
        · rintro ⟨readable, whole, ends⟩
          cases bound with
          | none =>
              cases whole
              exact absurd (opens_iff.mp opens) (ends rfl first rfl)
          | some type => exact ⟨type, ⟨readable type rfl, whole⟩, rfl⟩
      case isFalse other =>
        have other : ¬ Opens first := fun opens => other (opens_iff.mpr opens)
        rw [reads_ok_iff]
        constructor
        · rintro ⟨rfl, rfl⟩
          exact ⟨nofun, rfl, fun _ char member => Option.some.inj member ▸ other⟩
        · rintro ⟨_, whole, _⟩
          cases bound with
          | none => exact ⟨rfl, whole⟩
          | some type => exact absurd whole (type.cons_ne_text_append other _ _)

theorem reads_readInterfaceBounds {text rest : List Char} {bounds : List ReferenceType} :
    Reads (readInterfaceBounds text) bounds rest ↔
      (∀ bound ∈ bounds, bound.Readable) ∧
        text = (bounds.flatMap fun bound => ':' :: bound.text) ++ rest ∧
        rest.head? ≠ some ':' := by
  induction text using readInterfaceBounds.induct generalizing bounds with
  | case1 text induction =>
      have following {bound : ReferenceType} {middle : List Char} {others : List ReferenceType}
          (reads : Reads (readReferenceType text) bound middle) :
          Reads (readInterfaceBounds middle) others rest ↔
            (∀ bound ∈ others, bound.Readable) ∧
              middle = (others.flatMap fun bound => ':' :: bound.text) ++ rest ∧
              rest.head? ≠ some ':' := by
        rcases reads with ⟨taken, _, _, rfl⟩
        exact induction taken
      rw [readInterfaceBounds]
      refine Iff.trans (reads_bind_iff List.cons (fun _ _ => rfl) fun _ _ => rfl) ?_
      constructor
      · rintro ⟨bound, middle, others, reads, readsOthers, rfl⟩
        rcases (following reads).mp readsOthers with ⟨readable, behind, ends⟩
        rcases reads_readReferenceType.mp reads with ⟨fits, whole⟩
        refine ⟨List.forall_mem_cons.mpr ⟨fits, readable⟩, ?_, ends⟩
        rw [whole, behind, List.flatMap_cons, List.cons_append, List.cons_append,
          List.append_assoc]
      · rintro ⟨readable, whole, ends⟩
        cases bounds with
        | nil =>
            cases whole
            exact absurd rfl ends
        | cons bound others =>
            rcases List.forall_mem_cons.mp readable with ⟨fits, readable⟩
            rw [List.flatMap_cons, List.cons_append, List.cons_append, List.append_assoc] at whole
            have reads := reads_readReferenceType.mpr ⟨fits, (List.cons.inj whole).2⟩
            exact ⟨bound, _, others, reads, (following reads).mpr ⟨readable, rfl, ends⟩, rfl⟩
  | case2 text other =>
      rw [readInterfaceBounds.eq_2 text other, reads_ok_iff]
      constructor
      · rintro ⟨rfl, rfl⟩
        refine ⟨List.forall_mem_nil _, rfl, ?_⟩
        rintro begins
        rcases List.head?_eq_some_iff.mp begins with ⟨others, whole⟩
        exact other others whole
      · rintro ⟨_, whole, _⟩
        cases bounds with
        | nil => exact ⟨rfl, whole⟩
        | cons => exact absurd whole (other _)

/-! ## Parameters -/

theorem Parameter.text_append (parameter : Parameter) (rest : List Char) :
    parameter.text ++ rest = parameter.name.toList ++ ':' ::
      ((parameter.classBound.map ReferenceType.text).getD [] ++
        ((parameter.interfaceBounds.flatMap fun bound => ':' :: bound.text) ++ rest)) := by
  simp [text]

theorem reads_readParameter {text rest : List Char} {parameter : Parameter} :
    Reads (readParameter text) parameter rest ↔
      parameter.Readable ∧ text = parameter.text ++ rest ∧ parameter.EndsAt rest := by
  rw [readParameter, reads_then_iff, Parameter.text_append]
  constructor
  · rintro ⟨name, found, reads⟩
    rcases reads_readIdentifier.mp ⟨name, found, rfl, rfl⟩ with ⟨named, whole, _⟩
    rcases reads_then_iff.mp reads with ⟨colon, foundColon, readsBounds⟩
    have behindName := reads_readChar.mp ⟨colon, foundColon, rfl, rfl⟩
    rcases reads_then_iff.mp readsBounds with ⟨classBound, foundBound, readsOthers⟩
    rcases reads_readClassBound.mp ⟨classBound, foundBound, rfl, rfl⟩ with
      ⟨fits, behindColon, absent⟩
    rcases (reads_map_iff (Parameter.mk name.value classBound.value)
      (fun _ => rfl) fun _ => rfl).mp readsOthers with ⟨interfaceBounds, readsLast, rfl⟩
    rcases reads_readInterfaceBounds.mp readsLast with ⟨fit, behindBound, ends⟩
    refine ⟨⟨named, fits, fit⟩, ?_, ⟨ends, ?_⟩⟩
    · rw [behindBound] at behindColon
      rw [behindColon] at behindName
      rw [behindName] at whole
      exact whole
    · rintro none rfl
      rw [List.flatMap_nil, List.nil_append] at behindBound
      rw [← behindBound]
      exact absent none
  · rintro ⟨readable, whole, ends⟩
    have absent (none : parameter.classBound = none) :
        ∀ char ∈ ((parameter.interfaceBounds.flatMap fun bound => ':' :: bound.text) ++ rest).head?,
          ¬ Opens char := by
      cases bounds : parameter.interfaceBounds with
      | nil => exact ends.noClassBound none bounds
      | cons => exact fun char member => Option.some.inj member ▸ (by decide)
    rcases reads_readIdentifier.mpr ⟨readable.name, whole, ':', _, rfl, rfl⟩ with
      ⟨name, found, named, behindName⟩
    have readsColon : Reads (readChar ':' name.rest) () _ := reads_readChar.mpr behindName
    rcases readsColon with ⟨colon, foundColon, _, behindColon⟩
    rcases reads_readClassBound.mpr ⟨readable.classBound, behindColon, absent⟩ with
      ⟨classBound, foundBound, bounded, behindBound⟩
    refine ⟨name, found, reads_then_iff.mpr ⟨colon, foundColon, ?_⟩⟩
    refine reads_then_iff.mpr ⟨classBound, foundBound, ?_⟩
    apply (reads_map_iff (Parameter.mk name.value classBound.value)
      (fun _ => rfl) fun _ => rfl).mpr
    refine ⟨parameter.interfaceBounds, ?_, ?_⟩
    · exact reads_readInterfaceBounds.mpr ⟨readable.interfaceBounds, behindBound, ends.noBound⟩
    · rw [named, bounded]

namespace Parameter

theorem head?_text_append (parameter : Parameter) (rest : List Char) :
    (parameter.text ++ rest).head? = parameter.text.head? := by
  rw [List.head?_append_of_ne_nil]
  simp [text]

theorem Readable.head?_text {parameter : Parameter} (readable : parameter.Readable) :
    parameter.text.head? = parameter.name.toList.head? := by
  rw [text, List.append_assoc, List.head?_append_of_ne_nil _ readable.name.1]

theorem EndsAt.congr {parameter : Parameter} {text other : List Char}
    (ends : parameter.EndsAt text) (same : text.head? = other.head?) : parameter.EndsAt other := by
  rcases ends with ⟨noBound, noClassBound⟩
  rw [same] at noBound noClassBound
  exact ⟨noBound, noClassBound⟩

theorem endsAt_closing (parameter : Parameter) (rest : List Char) :
    parameter.EndsAt ('>' :: rest) :=
  ⟨by simp, fun _ _ char member => Option.some.inj member ▸ (by decide)⟩

end Parameter

/-- One parameter, and the end of the section or more parameters behind it. -/
theorem reads_readParameters_step {text rest : List Char} {parameters : List Parameter} :
    Reads (readParameters text) parameters rest ↔
      ∃ parameter middle, Reads (readParameter text) parameter middle ∧
        (middle = '>' :: rest ∧ parameters = [parameter] ∨
          middle.head? ≠ some '>' ∧
            ∃ others, Reads (readParameters middle) others rest ∧
              parameters = parameter :: others) := by
  rw [readParameters.eq_def, reads_then_iff]
  constructor
  · rintro ⟨parameter, found, reads⟩
    refine ⟨parameter.value, parameter.rest, ⟨parameter, found, rfl, rfl⟩, ?_⟩
    split at reads
    case h_1 behind ahead =>
      rcases reads_ok_iff.mp reads with ⟨rfl, rfl⟩
      exact .inl ⟨ahead, rfl⟩
    case h_2 unclosed =>
      rcases (reads_map_iff (List.cons parameter.value) (fun _ => by rfl)
        fun _ => by rfl).mp reads with ⟨others, readsOthers, rfl⟩
      refine .inr ⟨?_, others, readsOthers, rfl⟩
      intro closed
      rcases List.head?_eq_some_iff.mp closed with ⟨behind, ahead⟩
      exact unclosed behind ahead
  · rintro ⟨_, _, ⟨parameter, found, rfl, rfl⟩, ⟨closing, rfl⟩ | ⟨unclosed, others, reads, rfl⟩⟩
    · refine ⟨parameter, found, ?_⟩
      split
      case h_1 behind ahead =>
        rw [ahead] at closing
        exact reads_ok_iff.mpr ⟨rfl, (List.cons.inj closing).2⟩
      case h_2 unclosed => exact absurd closing (unclosed rest)
    · refine ⟨parameter, found, ?_⟩
      split
      case h_1 behind ahead =>
        rw [ahead] at unclosed
        exact absurd rfl unclosed
      case h_2 =>
        apply (reads_map_iff (List.cons parameter.value) (fun _ => by rfl)
          fun _ => by rfl).mpr
        exact ⟨others, reads, rfl⟩

theorem sectionReadable_singleton_iff {parameter : Parameter} :
    SectionReadable [parameter] ↔ parameter.Readable := by
  constructor
  · intro readable
    exact List.forall_mem_singleton.mp readable.readable
  · intro readable
    exact ⟨List.cons_ne_nil _ _, List.forall_mem_singleton.mpr readable,
      List.isChain_singleton parameter⟩

theorem sectionReadable_cons_iff {parameter next : Parameter} {others : List Parameter} :
    SectionReadable (parameter :: next :: others) ↔
      parameter.Readable ∧ parameter.Before next ∧ SectionReadable (next :: others) := by
  constructor
  · rintro ⟨_, readable, separate⟩
    rcases List.forall_mem_cons.mp readable with ⟨first, readable⟩
    rcases List.isChain_cons_cons.mp separate with ⟨before, separate⟩
    exact ⟨first, before, List.cons_ne_nil _ _, readable, separate⟩
  · rintro ⟨first, before, _, readable, separate⟩
    exact ⟨List.cons_ne_nil _ _, List.forall_mem_cons.mpr ⟨first, readable⟩,
      List.isChain_cons_cons.mpr ⟨before, separate⟩⟩

theorem reads_readParameters {text rest : List Char} {parameters : List Parameter} :
    Reads (readParameters text) parameters rest ↔
      SectionReadable parameters ∧ text = parameters.flatMap Parameter.text ++ '>' :: rest := by
  induction text using readParameters.induct generalizing parameters with
  | case1 text induction =>
      have following {parameter : Parameter} {middle : List Char} {others : List Parameter}
          (reads : Reads (readParameter text) parameter middle) :
          Reads (readParameters middle) others rest ↔ SectionReadable others ∧
            middle = others.flatMap Parameter.text ++ '>' :: rest := by
        rcases reads with ⟨taken, _, _, rfl⟩
        exact induction taken
      rw [reads_readParameters_step]
      constructor
      · rintro ⟨parameter, middle, reads, ⟨rfl, rfl⟩ | ⟨unclosed, others, readsOthers, rfl⟩⟩
        · rcases reads_readParameter.mp reads with ⟨readable, whole, _⟩
          refine ⟨sectionReadable_singleton_iff.mpr readable, ?_⟩
          rw [whole, List.flatMap_singleton]
        · rcases reads_readParameter.mp reads with ⟨readable, whole, ends⟩
          rcases (following reads).mp readsOthers with ⟨othersReadable, rfl⟩
          refine ⟨?_, ?_⟩
          -- The text behind the parameter begins like the name of the next one.
          · cases others with
            | nil => exact absurd rfl othersReadable.nonempty
            | cons next others =>
                have fits := othersReadable.readable next (List.mem_cons_self ..)
                rw [List.flatMap_cons, List.append_assoc] at ends unclosed
                rw [next.head?_text_append, fits.head?_text] at unclosed
                exact sectionReadable_cons_iff.mpr ⟨readable,
                  ⟨unclosed, ends.congr (next.head?_text_append _)⟩, othersReadable⟩
          · rw [whole, List.flatMap_cons, List.append_assoc]
      · rintro ⟨readable, whole⟩
        cases parameters with
        | nil => exact absurd rfl readable.nonempty
        | cons parameter others =>
            rw [List.flatMap_cons, List.append_assoc] at whole
            cases others with
            | nil =>
                have fits := sectionReadable_singleton_iff.mp readable
                have reads := reads_readParameter.mpr
                  ⟨fits, whole, parameter.endsAt_closing rest⟩
                exact ⟨parameter, _, reads, .inl ⟨rfl, rfl⟩⟩
            | cons next others =>
                rcases sectionReadable_cons_iff.mp readable with ⟨fits, before, readable⟩
                have nextFits := readable.readable next (List.mem_cons_self ..)
                have begins := next.head?_text_append
                  (others.flatMap Parameter.text ++ '>' :: rest)
                rw [List.flatMap_cons, List.append_assoc] at whole
                have reads := reads_readParameter.mpr ⟨fits, whole, before.2.congr begins.symm⟩
                refine ⟨parameter, _, reads, .inr ⟨?_, next :: others, ?_, rfl⟩⟩
                · rw [begins, nextFits.head?_text]
                  exact before.1
                · apply (following reads).mpr
                  exact ⟨readable, by rw [List.flatMap_cons, List.append_assoc]⟩

/-! ## The section -/

theorem sectionText_append (parameters : List Parameter) (rest : List Char) :
    sectionText parameters ++ rest =
      '<' :: (parameters.flatMap Parameter.text ++ '>' :: rest) := by
  simp [sectionText]

theorem readSection_eq_ok_iff {text : List Char} {parameters : List Parameter} :
    readSection text = .ok parameters ↔
      text.head? ≠ some '<' ∧ parameters = [] ∨
        SectionReadable parameters ∧ ∃ rest, text = sectionText parameters ++ rest := by
  rw [readSection.eq_def]
  split
  case h_1 text =>
    change (readParameters text).map (·.value) = _ ↔ _
    rw [map_ok_iff]
    constructor
    · rintro ⟨taken, found, rfl⟩
      rcases reads_readParameters.mp ⟨taken, found, rfl, rfl⟩ with ⟨readable, split⟩
      refine .inr ⟨readable, taken.rest, ?_⟩
      rw [sectionText_append, ← split]
    · rintro (⟨unopened, _⟩ | ⟨readable, rest, equal⟩)
      · exact absurd rfl unopened
      · rw [sectionText_append] at equal
        rcases reads_readParameters.mpr ⟨readable, (List.cons.inj equal).2⟩ with
          ⟨taken, found, value, _⟩
        exact ⟨taken, found, value⟩
  case h_2 other =>
    constructor
    · intro equal
      cases equal
      refine .inl ⟨?_, rfl⟩
      intro opened
      rcases List.head?_eq_some_iff.mp opened with ⟨behind, ahead⟩
      exact other behind ahead
    · rintro (⟨_, rfl⟩ | ⟨_, rest, equal⟩)
      · rfl
      · exact absurd (equal.trans (sectionText_append parameters rest)) (other _)

/-- A signature declares the parameters of the section with which it begins, or none
if it begins with no section. -/
theorem typeParameters_eq_ok_iff {signature : String} {declared : List TypeParameter} :
    typeParameters signature = .ok declared ↔
      signature.toList.head? ≠ some '<' ∧ declared = [] ∨
        ∃ parameters rest, SectionReadable parameters ∧
          signature.toList = sectionText parameters ++ rest ∧
          declared = declaredParameters parameters := by
  rw [typeParameters, mapError_eq_ok_iff, map_ok_iff]
  simp only [readSection_eq_ok_iff]
  constructor
  · rintro ⟨parameters, ⟨unopened, rfl⟩ | ⟨readable, rest, whole⟩, rfl⟩
    · exact .inl ⟨unopened, rfl⟩
    · exact .inr ⟨parameters, rest, readable, whole, rfl⟩
  · rintro (⟨unopened, rfl⟩ | ⟨parameters, rest, readable, whole, rfl⟩)
    · exact ⟨[], .inl ⟨unopened, rfl⟩, rfl⟩
    · exact ⟨parameters, .inr ⟨readable, rest, whole⟩, rfl⟩

end TypeTokenWrappers.Signature
