import Mathlib.Data.List.TakeWhile
import TypeTokenWrappers.Descriptor.Reader
import TypeTokenWrappers.Proofs.Text.Taken

/-! # Reading descriptors

Each reader finds exactly what the text in front of it prints. A class name may
hold any characters but the `;` that ends it, and has to hold one at least. -/

namespace TypeTokenWrappers

open Taken

namespace FieldType

/-- Whether the printed type can be read back. -/
def Readable : FieldType → Prop
  | .primitive _ => True
  | .classType internalName => internalName.toList ≠ [] ∧ ';' ∉ internalName.toList
  | .array element => element.Readable

theorem text_classType_append (internalName : String) (rest : List Char) :
    (classType internalName).text ++ rest = 'L' :: (internalName.toList ++ ';' :: rest) := by
  rw [text, List.cons_append, List.cons_append, List.append_assoc]
  rfl

end FieldType

def ReturnType.Readable : ReturnType → Prop
  | .void => True
  | .value type => type.Readable

structure MethodDescriptor.Readable (descriptor : MethodDescriptor) : Prop where
  arguments : ∀ argument ∈ descriptor.arguments, argument.Readable
  returnType : descriptor.returnType.Readable

namespace Descriptor

/-- What stands in front of the first `;` and behind it. -/
theorem dropWhile_eq_cons_iff {text after : List Char} {head : Char} :
    text.dropWhile (· != ';') = head :: after ↔
      head = ';' ∧ ';' ∉ text.takeWhile (· != ';') ∧
        text = text.takeWhile (· != ';') ++ ';' :: after := by
  have whole : text.takeWhile (· != ';') ++ text.dropWhile (· != ';') = text :=
    List.takeWhile_append_dropWhile
  constructor
  · intro behind
    have ends : head = ';' := by
      have stops := List.head?_dropWhile_not (· != ';') text
      rw [behind] at stops
      simpa using stops
    refine ⟨ends, ?_, ?_⟩
    · intro member
      simpa using List.mem_takeWhile_imp member
    · rw [behind, ends] at whole
      exact whole.symm
  · rintro ⟨rfl, _, split⟩
    exact List.append_cancel_left (whole.trans split)

theorem reads_classType {text rest : List Char} {type : FieldType} :
    Reads (readFieldType ('L' :: text)) type rest ↔
      ∃ name, name ≠ [] ∧ ';' ∉ name ∧ text = name ++ ';' :: rest ∧
        type = .classType (String.ofList name) := by
  have front {name : List Char} (inside : ';' ∉ name) :
      (name ++ ';' :: rest).takeWhile (· != ';') = name := by
    rw [List.takeWhile_append_of_pos]
    · simp
    · intro char member
      simp only [bne_iff_ne]
      rintro rfl
      exact inside member
  rw [readFieldType]
  split
  case h_1 nothing =>
    refine iff_of_false not_reads_error ?_
    rintro ⟨name, _, inside, rfl, _⟩
    have ends : (name ++ ';' :: rest).dropWhile (· != ';') = ';' :: rest := by
      rw [dropWhile_eq_cons_iff, front inside]
      exact ⟨rfl, inside, rfl⟩
    rw [nothing] at ends
    cases ends
  case h_2 head after behind =>
    rcases dropWhile_eq_cons_iff.mp behind with ⟨rfl, inside, split⟩
    split
    case h_1 empty =>
      refine iff_of_false not_reads_error ?_
      rintro ⟨name, some, outside, rfl, _⟩
      exact some ((front outside).symm.trans empty)
    case h_2 some =>
      rw [reads_ok_iff]
      constructor
      · rintro ⟨rfl, rfl⟩
        exact ⟨_, some, inside, split, rfl⟩
      · rintro ⟨name, _, outside, rfl, rfl⟩
        rw [front outside] at split ⊢
        cases List.append_cancel_left split
        exact ⟨rfl, rfl⟩

theorem reads_readFieldType {text rest : List Char} {type : FieldType} :
    Reads (readFieldType text) type rest ↔ type.Readable ∧ text = type.text ++ rest := by
  induction text using readFieldType.induct generalizing type with
  | case1 =>
      rw [readFieldType]
      refine iff_of_false not_reads_error ?_
      rintro ⟨_, whole⟩
      cases type <;> cases whole
  | case2 text induction =>
      rw [readFieldType]
      refine Iff.trans (reads_map_iff FieldType.array (fun _ => rfl) fun _ => rfl) ?_
      constructor
      · rintro ⟨element, reads, rfl⟩
        rcases induction.mp reads with ⟨readable, rfl⟩
        exact ⟨readable, rfl⟩
      · rintro ⟨readable, whole⟩
        cases type with
        | primitive kind => cases kind <;> cases whole
        | classType => cases whole
        | array element => exact ⟨element, induction.mpr ⟨readable, (List.cons.inj whole).2⟩, rfl⟩
  | case3 text | case4 text | case5 text =>
      rw [reads_classType]
      constructor
      · rintro ⟨name, some, inside, rfl, rfl⟩
        rw [FieldType.Readable, FieldType.text_classType_append, String.toList_ofList]
        exact ⟨⟨some, inside⟩, rfl⟩
      · rintro ⟨readable, whole⟩
        cases type with
        | primitive kind => cases kind <;> cases whole
        | array => cases whole
        | classType name =>
            rw [FieldType.text_classType_append] at whole
            refine ⟨name.toList, readable.1, readable.2, (List.cons.inj whole).2, ?_⟩
            rw [String.ofList_toList]
  | case6 char text notArray notClass kind found =>
      rw [readFieldType.eq_4 char text notArray notClass, found, reads_ok_iff]
      constructor
      · rintro ⟨rfl, rfl⟩
        rw [Primitive.letter_of_ofLetter? found]
        exact ⟨trivial, rfl⟩
      · rintro ⟨_, whole⟩
        cases type with
        | primitive other =>
            cases whole
            rw [Primitive.ofLetter?_letter] at found
            cases found
            exact ⟨rfl, rfl⟩
        | classType => exact absurd (List.cons.inj whole).1 notClass
        | array => exact absurd (List.cons.inj whole).1 notArray
  | case7 char text notArray notClass unknown =>
      rw [readFieldType.eq_4 char text notArray notClass, unknown]
      refine iff_of_false not_reads_error ?_
      rintro ⟨_, whole⟩
      cases type with
      | primitive other =>
          cases whole
          rw [Primitive.ofLetter?_letter] at unknown
          cases unknown
      | classType => exact notClass (List.cons.inj whole).1
      | array => exact notArray (List.cons.inj whole).1

/-- No type begins like the end of the arguments or like a method that returns nothing. -/
theorem exists_text_eq_cons (type : FieldType) :
    ∃ first others, type.text = first :: others ∧ first ≠ ')' ∧ first ≠ 'V' := by
  cases type with
  | primitive kind => exact ⟨kind.letter, [], rfl, by cases kind <;> decide⟩
  | classType internalName => exact ⟨'L', _, rfl, by decide⟩
  | array element => exact ⟨'[', _, rfl, by decide⟩

theorem reads_readArguments {text rest : List Char} {arguments : List FieldType} :
    Reads (readArguments text) arguments rest ↔
      (∀ argument ∈ arguments, argument.Readable) ∧
        text = arguments.flatMap FieldType.text ++ ')' :: rest := by
  induction text using readArguments.induct generalizing arguments with
  | case1 text =>
      rw [readArguments, reads_ok_iff]
      constructor
      · rintro ⟨rfl, rfl⟩
        exact ⟨List.forall_mem_nil _, rfl⟩
      · rintro ⟨_, whole⟩
        cases arguments with
        | nil => exact ⟨rfl, (List.cons.inj whole).2⟩
        | cons first others =>
            rcases exists_text_eq_cons first with ⟨char, _, begins, other, _⟩
            rw [List.flatMap_cons, begins] at whole
            exact absurd (List.cons.inj whole).1.symm other
  | case2 text unclosed induction =>
      have following {first : FieldType} {middle : List Char} {others : List FieldType}
          (reads : Reads (readFieldType text) first middle) :
          Reads (readArguments middle) others rest ↔ (∀ argument ∈ others, argument.Readable) ∧
            middle = others.flatMap FieldType.text ++ ')' :: rest := by
        rcases reads with ⟨taken, _, _, rfl⟩
        exact induction taken
      rw [readArguments.eq_2 text unclosed]
      refine Iff.trans (reads_bind_iff List.cons (fun _ _ => rfl) fun _ _ => rfl) ?_
      constructor
      · rintro ⟨first, middle, others, reads, readsOthers, rfl⟩
        rcases (following reads).mp readsOthers with ⟨readable, behind⟩
        rcases reads_readFieldType.mp reads with ⟨fits, whole⟩
        refine ⟨List.forall_mem_cons.mpr ⟨fits, readable⟩, ?_⟩
        rw [whole, behind, List.flatMap_cons, List.append_assoc]
      · rintro ⟨readable, whole⟩
        cases arguments with
        | nil => exact absurd whole (unclosed rest)
        | cons first others =>
            rcases List.forall_mem_cons.mp readable with ⟨fits, readable⟩
            rw [List.flatMap_cons, List.append_assoc] at whole
            have reads := reads_readFieldType.mpr ⟨fits, whole⟩
            exact ⟨first, _, others, reads, (following reads).mpr ⟨readable, rfl⟩, rfl⟩

theorem reads_readReturnType {text rest : List Char} {type : ReturnType} :
    Reads (readReturnType text) type rest ↔ type.Readable ∧ text = type.text ++ rest := by
  rw [readReturnType.eq_def]
  split
  case h_1 text =>
    rw [reads_ok_iff]
    constructor
    · rintro ⟨rfl, rfl⟩
      exact ⟨trivial, rfl⟩
    · rintro ⟨_, whole⟩
      cases type with
      | void => exact ⟨rfl, (List.cons.inj whole).2⟩
      | value type =>
          rcases exists_text_eq_cons type with ⟨char, _, begins, _, other⟩
          rw [ReturnType.text, begins] at whole
          exact absurd (List.cons.inj whole).1.symm other
  case h_2 text other =>
    refine Iff.trans (reads_map_iff ReturnType.value (fun _ => rfl) fun _ => rfl) ?_
    constructor
    · rintro ⟨found, reads, rfl⟩
      exact reads_readFieldType.mp reads
    · rintro ⟨readable, whole⟩
      cases type with
      | void => exact absurd whole (other rest)
      | value type => exact ⟨type, reads_readFieldType.mpr ⟨readable, whole⟩, rfl⟩

theorem complete_eq_ok_iff {taken : Taken α limit} {value : α} :
    complete taken = .ok value ↔ taken.value = value ∧ taken.rest = [] := by
  rw [complete]
  split
  case h_1 nothing =>
    rw [Except.ok.injEq, and_iff_left nothing]
  case h_2 some =>
    constructor
    · intro impossible
      cases impossible
    · rintro ⟨_, nothing⟩
      exact absurd nothing some

end Descriptor

open Descriptor

/-- A type is read if it is what a readable type prints, and as that. -/
theorem FieldType.parse_eq_ok_iff {text : String} {type : FieldType} :
    FieldType.parse text = .ok type ↔ type.Readable ∧ text.toList = type.text := by
  rw [FieldType.parse, mapError_eq_ok_iff, bind_ok_iff]
  simp only [complete_eq_ok_iff]
  have reads : Reads (readFieldType text.toList) type [] ↔
      type.Readable ∧ text.toList = type.text ++ [] := reads_readFieldType
  rw [List.append_nil] at reads
  exact reads

/-- A descriptor is read if it is what a readable descriptor prints, and as that. -/
theorem MethodDescriptor.parse_eq_ok_iff {text : String} {descriptor : MethodDescriptor} :
    MethodDescriptor.parse text = .ok descriptor ↔
      descriptor.Readable ∧ text.toList = descriptor.text := by
  rw [MethodDescriptor.parse, mapError_eq_ok_iff]
  split
  case h_1 rest whole =>
    rw [whole, MethodDescriptor.text]
    simp only [bind_ok_iff, complete_eq_ok_iff]
    constructor
    · rintro ⟨arguments, readArguments, returned, readReturn, _, ⟨rfl, nothing⟩, equal⟩
      cases equal
      rcases reads_readArguments.mp ⟨arguments, readArguments, rfl, rfl⟩ with ⟨fit, front⟩
      rcases reads_readReturnType.mp ⟨returned, readReturn, rfl, nothing⟩ with ⟨fits, back⟩
      refine ⟨⟨fit, fits⟩, ?_⟩
      rw [back, List.append_nil] at front
      exact congrArg ('(' :: ·) front
    · rintro ⟨readable, equal⟩
      rcases reads_readArguments.mpr ⟨readable.arguments, (List.cons.inj equal).2⟩ with
        ⟨arguments, readArguments, first, behind⟩
      rcases reads_readReturnType.mpr
          ⟨readable.returnType, behind.trans (List.append_nil _).symm⟩ with
        ⟨returned, readReturn, second, nothing⟩
      refine ⟨arguments, readArguments, returned, readReturn, _, ⟨rfl, nothing⟩, ?_⟩
      rw [first, second]
      rfl
  case h_2 other =>
    constructor
    · intro impossible
      cases impossible
    · rintro ⟨_, whole⟩
      exact absurd whole (other _)

end TypeTokenWrappers
