import TypeTokenWrappers.Proofs.Signature.Declared
import TypeTokenWrappers.Proofs.Signature.Section

/-! # The grammar of compiled signatures

What compilers write into signatures is narrower than what the reader takes. Each
section they can write is read, and declares what is written in it, as long as no
name can be mistaken for the bound of the parameter in front of it. -/

namespace TypeTokenWrappers.Signature

/-! ## Well-formed types -/

def Identifier (name : List Char) : Prop :=
  name ≠ [] ∧ ∀ char ∈ name, char ∉ ['.', ';', '[', '/', '<', '>', ':']

theorem identifier_iff {name : List Char} :
    (!name.isEmpty && name.all fun char =>
      !List.contains ['.', ';', '[', '/', '<', '>', ':'] char) = true ↔ Identifier name := by
  simp [Identifier]

instance (name : List Char) : Decidable (Identifier name) :=
  decidable_of_iff _ identifier_iff

/-- Identifiers with slashes between them. -/
inductive Qualified : List Char → Prop where
  | simple {name : List Char} (identifier : Identifier name) : Qualified name
  | within {package name : List Char} (identifier : Identifier package)
      (qualified : Qualified name) : Qualified (package ++ '/' :: name)

mutual
def ReferenceType.WellFormed : ReferenceType → Prop
  | .classType outer inner =>
    Qualified outer.name.toList ∧ outer.ArgumentsWellFormed ∧ InnerWellFormed inner
  | .typeVariable name => Identifier name.toList
  | .primitiveArray _ => True
  | .array element => element.WellFormed

/-- The arguments of a class segment, if it has any, are not an empty list. -/
def ClassSegment.ArgumentsWellFormed : ClassSegment → Prop
  | .plain _ => True
  | .parameterized _ arguments => arguments ≠ [] ∧ WellFormedArguments arguments

def TypeArgument.WellFormed : TypeArgument → Prop
  | .wildcard => True
  | .bounded _ bound => bound.WellFormed

def InnerWellFormed : List ClassSegment → Prop
  | [] => True
  | segment :: others =>
    Identifier segment.name.toList ∧ segment.ArgumentsWellFormed ∧ InnerWellFormed others

def WellFormedArguments : List TypeArgument → Prop
  | [] => True
  | argument :: others => argument.WellFormed ∧ WellFormedArguments others
end

structure Parameter.WellFormed (parameter : Parameter) : Prop where
  name : Identifier parameter.name.toList
  classBound : ∀ bound ∈ parameter.classBound, bound.WellFormed
  interfaceBounds : ∀ bound ∈ parameter.interfaceBounds, bound.WellFormed

/-- Whether the next name cannot be taken for the bound of a parameter that has none. -/
def Parameter.Separate (parameter next : Parameter) : Prop :=
  parameter.classBound = none → parameter.interfaceBounds = [] →
    ∀ char ∈ next.name.toList.head?, char ≠ 'L' ∧ char ≠ 'T'

/-! ## Well-formed types can be read -/

theorem Identifier.ends_eq_false {ends : Char → Bool} {name : List Char}
    (identifier : Identifier name)
    (stops : ∀ char, ends char = true → char ∈ ['.', ';', '[', '/', '<', '>', ':']) :
    ∀ char ∈ name, ends char = false := by
  intro char member
  rw [← Bool.not_eq_true]
  intro ends
  exact identifier.2 char member (stops char ends)

theorem mem_of_endsClassName (char : Char) (ends : endsClassName char = true) :
    char ∈ ['.', ';', '[', '/', '<', '>', ':'] := by
  rcases endsClassName_iff.mp ends with rfl | rfl | rfl <;> decide

theorem Qualified.named {name : List Char} (qualified : Qualified name) :
    name ≠ [] ∧ ∀ char ∈ name, endsClassName char = false := by
  induction qualified with
  | simple identifier => exact ⟨identifier.1, identifier.ends_eq_false mem_of_endsClassName⟩
  | within identifier qualified induction =>
      refine ⟨by simp, ?_⟩
      rw [List.forall_mem_append, List.forall_mem_cons]
      exact ⟨identifier.ends_eq_false mem_of_endsClassName, rfl, induction.2⟩

mutual
theorem ReferenceType.readable_of_wellFormed : ∀ type : ReferenceType,
    type.WellFormed → type.Readable
  | .classType outer inner, ⟨qualified, arguments, others⟩ =>
    ⟨outer.readable_of_wellFormed qualified.named arguments,
      innerReadable_of_wellFormed inner others⟩
  | .typeVariable _, identifier =>
    ⟨identifier.1, identifier.ends_eq_false fun char ends => by
      rw [beq_iff_eq.mp ends]
      decide⟩
  | .primitiveArray _, _ => trivial
  | .array element, wellFormed => element.readable_of_wellFormed wellFormed

theorem ClassSegment.readable_of_wellFormed : ∀ segment : ClassSegment,
    Named endsClassName segment.name → segment.ArgumentsWellFormed → segment.Readable
  | .plain _, named, _ => named
  | .parameterized _ arguments, named, wellFormed =>
    ⟨named, argumentsReadable_of_wellFormed arguments wellFormed.2⟩

theorem TypeArgument.readable_of_wellFormed : ∀ argument : TypeArgument,
    argument.WellFormed → argument.Readable
  | .wildcard, _ => trivial
  | .bounded _ bound, wellFormed => bound.readable_of_wellFormed wellFormed

theorem innerReadable_of_wellFormed : ∀ inner : List ClassSegment,
    InnerWellFormed inner → InnerReadable inner
  | [], _ => trivial
  | segment :: others, ⟨identifier, arguments, wellFormed⟩ =>
    ⟨segment.readable_of_wellFormed
      ⟨identifier.1, identifier.ends_eq_false mem_of_endsClassName⟩ arguments,
      innerReadable_of_wellFormed others wellFormed⟩

theorem argumentsReadable_of_wellFormed : ∀ arguments : List TypeArgument,
    WellFormedArguments arguments → ArgumentsReadable arguments
  | [], _ => trivial
  | argument :: others, ⟨first, wellFormed⟩ =>
    ⟨argument.readable_of_wellFormed first, argumentsReadable_of_wellFormed others wellFormed⟩
end

theorem Parameter.WellFormed.readable {parameter : Parameter}
    (wellFormed : parameter.WellFormed) : parameter.Readable where
  name := ⟨wellFormed.name.1, wellFormed.name.ends_eq_false fun char ends => by
    rw [beq_iff_eq.mp ends]
    decide⟩
  classBound bound member := bound.readable_of_wellFormed (wellFormed.classBound bound member)
  interfaceBounds bound member :=
    bound.readable_of_wellFormed (wellFormed.interfaceBounds bound member)

theorem Parameter.WellFormed.before {parameter next : Parameter} (wellFormed : next.WellFormed)
    (separate : parameter.Separate next) : parameter.Before next := by
  have begins := wellFormed.readable.head?_text
  have allowed (char : Char) (first : next.name.toList.head? = some char) :
      char ∉ ['.', ';', '[', '/', '<', '>', ':'] :=
    wellFormed.name.2 char (List.mem_of_mem_head? first)
  refine ⟨fun closing => allowed '>' closing (by decide), ?_, ?_⟩
  · rw [begins]
    exact fun colon => allowed ':' colon (by decide)
  · rw [begins]
    rintro none noOthers char first (rfl | rfl | rfl)
    · exact (separate none noOthers 'L' first).1 rfl
    · exact (separate none noOthers 'T' first).2 rfl
    · exact allowed '[' first (by decide)

theorem sectionReadable_of_wellFormed {parameters : List Parameter} (nonempty : parameters ≠ [])
    (wellFormed : ∀ parameter ∈ parameters, parameter.WellFormed)
    (separate : parameters.IsChain Parameter.Separate) : SectionReadable parameters where
  nonempty := nonempty
  readable parameter member := (wellFormed parameter member).readable
  separate := separate.imp_of_mem_imp fun _ _ _ member distinct =>
    (wellFormed _ member).before distinct

/-- A well-formed section is read, whatever follows. It declares each name once, in
order, with the class names in the interface bounds that stand with it last. -/
theorem typeParameters_sectionText (parameters : List Parameter) (nonempty : parameters ≠ [])
    (wellFormed : ∀ parameter ∈ parameters, parameter.WellFormed)
    (separate : parameters.IsChain Parameter.Separate) (rest : List Char) :
    ∃ declared,
      typeParameters (String.ofList (sectionText parameters ++ rest)) = .ok declared ∧
      declared.map (·.name) = (parameters.map (·.name)).eraseDups ∧
      ∀ before parameter after, parameters = before ++ parameter :: after →
        (∀ later ∈ after, later.name ≠ parameter.name) →
        ⟨parameter.name, if parameter.boundNames = [] then none
          else some (", ".intercalate parameter.boundNames)⟩ ∈ declared := by
  have readable := sectionReadable_of_wellFormed nonempty wellFormed separate
  refine ⟨declaredParameters parameters, ?_, names_declaredParameters parameters, ?_⟩
  · apply typeParameters_eq_ok_iff.mpr
    exact .inr ⟨parameters, rest, readable, String.toList_ofList, rfl⟩
  · rintro before parameter after rfl last
    rw [← typeParameter_eq, ← lastBounds_of_last last, declaredParameters_eq]
    refine List.mem_map.mpr ⟨parameter.name, ?_, rfl⟩
    rw [List.mem_eraseDups]
    exact List.mem_map_of_mem (List.mem_append_right before (List.mem_cons_self ..))

/-- Bounds with types among the arguments of a class, of a class in these, and of an inner
class. -/
def nestedBounds : List ReferenceType :=
  [.classType (.parameterized "java/Map" [
      .bounded .invariant (.array (.classType (.plain "a/Key") [])),
      .bounded .covariant (.classType
        (.parameterized "a/Box" [.bounded .contravariant (.classType (.plain "Leaf") [])]) [])])
    [.parameterized "Entry" [.wildcard, .bounded .invariant (.classType (.plain "b/Value") [])]],
    .classType (.plain "Runnable") []]

/-- A section in which `T` is declared twice. -/
def sampleParameters : List Parameter :=
  [⟨"T", none, []⟩,
    ⟨"U", some (.array (.primitiveArray .int)),
      [.classType (.parameterized "java/Map" [.wildcard, .bounded .covariant (.typeVariable "T")])
        [.plain "Entry"]]⟩,
    ⟨"T", none, nestedBounds⟩]

theorem qualified_java_map : Qualified "java/Map".toList := by
  have parts : Qualified ("java".toList ++ '/' :: "Map".toList) :=
    .within (by decide) (.simple (by decide))
  exact parts

theorem wellFormed_nestedBounds : ∀ bound ∈ nestedBounds, bound.WellFormed := by
  have key : Qualified ("a".toList ++ '/' :: "Key".toList) :=
    .within (by decide) (.simple (by decide))
  have box : Qualified ("a".toList ++ '/' :: "Box".toList) :=
    .within (by decide) (.simple (by decide))
  have value : Qualified ("b".toList ++ '/' :: "Value".toList) :=
    .within (by decide) (.simple (by decide))
  have leaf : Qualified "Leaf".toList := .simple (by decide)
  have runnable : Qualified "Runnable".toList := .simple (by decide)
  have boxed : ReferenceType.WellFormed (.classType
      (.parameterized "a/Box" [.bounded .contravariant (.classType (.plain "Leaf") [])]) []) :=
    ⟨box, ⟨nofun, ⟨leaf, trivial, trivial⟩, trivial⟩, trivial⟩
  have entry : InnerWellFormed [.parameterized "Entry"
      [.wildcard, .bounded .invariant (.classType (.plain "b/Value") [])]] :=
    ⟨by decide, ⟨nofun, trivial, ⟨value, trivial, trivial⟩, trivial⟩, trivial⟩
  refine List.forall_mem_cons.mpr ⟨⟨qualified_java_map, ⟨nofun, ?_⟩, entry⟩,
    List.forall_mem_singleton.mpr ⟨runnable, trivial, trivial⟩⟩
  exact ⟨⟨key, trivial, trivial⟩, boxed, trivial⟩

theorem wellFormed_sampleParameters : ∀ parameter ∈ sampleParameters, parameter.WellFormed := by
  have variableName : Identifier "T".toList := by decide
  refine List.forall_mem_cons.mpr ⟨⟨variableName, nofun, nofun⟩, List.forall_mem_cons.mpr
    ⟨⟨by decide, ?_, ?_⟩,
      List.forall_mem_singleton.mpr ⟨variableName, nofun, wellFormed_nestedBounds⟩⟩⟩
  · rintro _ equal
    cases equal
    trivial
  · refine List.forall_mem_singleton.mpr ⟨qualified_java_map, ⟨nofun, ?_⟩, ?_⟩
    · exact ⟨trivial, variableName, trivial⟩
    · exact ⟨by decide, trivial, trivial⟩

theorem typeParameters_sampleParameters :
    sectionText sampleParameters = ("<T:U:[[I:Ljava/Map<*+TT;>.Entry;" ++
      "T::Ljava/Map<[La/Key;+La/Box<-LLeaf;>;>.Entry<*Lb/Value;>;:LRunnable;>").toList ∧
    ∃ declared,
      typeParameters (String.ofList (sectionText sampleParameters ++ "()V".toList)) =
        .ok declared ∧
      declared.map (·.name) = ["T", "U"] ∧
      ⟨"T", some "java.Map, a.Key, a.Box, Leaf, b.Value, Runnable"⟩ ∈ declared ∧
      ⟨"U", some "java.Map"⟩ ∈ declared := by
  have separate : sampleParameters.IsChain Parameter.Separate := by
    refine List.isChain_cons_cons.mpr ⟨?_, List.isChain_cons_cons.mpr ⟨nofun,
      List.isChain_singleton _⟩⟩
    rintro _ _ char first
    cases first
    decide
  rcases typeParameters_sectionText sampleParameters nofun wellFormed_sampleParameters separate
    "()V".toList with ⟨declared, read, names, bounds⟩
  have again := bounds (sampleParameters.take 2) ⟨"T", none, nestedBounds⟩ [] rfl nofun
  have once := bounds (sampleParameters.take 1) _ (sampleParameters.drop 2) rfl (by decide)
  have boundsAgain : (Parameter.mk "T" none nestedBounds).boundNames =
      ["java.Map", "a.Key", "a.Box", "Leaf", "b.Value", "Runnable"] := by
    decide +kernel
  have boundsOnce : (Parameter.mk "U" (some (.array (.primitiveArray .int)))
      [.classType (.parameterized "java/Map" [.wildcard, .bounded .covariant (.typeVariable "T")])
        [.plain "Entry"]]).boundNames = ["java.Map"] := by
    decide +kernel
  rw [boundsAgain] at again
  rw [boundsOnce] at once
  exact ⟨by cbv, declared, read, names.trans (by decide), again, once⟩

end TypeTokenWrappers.Signature
