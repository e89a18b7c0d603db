import TypeTokenWrappers.Proofs.Text.Taken
import TypeTokenWrappers.Signature.Reader

/-! # Reading names

A name is read up to the first character at which names of its kind end. Such a
character has to follow, and is left where it is. -/

namespace TypeTokenWrappers.Signature

open Taken

/-- A name that is read as a whole: it is not empty, and nothing in it ends it. -/
def Named (ends : Char → Bool) (name : String) : Prop :=
  name.toList ≠ [] ∧ ∀ char ∈ name.toList, ends char = false

/-- A text that begins with a character that ends a name. -/
def Ended (ends : Char → Bool) (text : List Char) : Prop :=
  ∃ next others, text = next :: others ∧ ends next = true

variable {ends : Char → Bool} {text rest : List Char}

theorem before?_eq_some_iff {name : List Char} :
    (∃ taken, before? ends text = some taken ∧ taken.value = name ∧ taken.rest = rest) ↔
      (∀ char ∈ name, ends char = false) ∧ text = name ++ rest ∧ Ended ends rest := by
  induction text generalizing name with
  | nil =>
      constructor
      · rintro ⟨_, impossible, _⟩
        cases impossible
      · rintro ⟨_, whole, next, others, rfl, _⟩
        simp at whole
  | cons first text induction =>
      rw [before?]
      cases stops : ends first with
      | true =>
          constructor
          · rintro ⟨_, equal, rfl, rfl⟩
            cases equal
            exact ⟨List.forall_mem_nil _, rfl, first, text, rfl, stops⟩
          · rintro ⟨inside, whole, _⟩
            cases name with
            | nil => exact ⟨_, rfl, rfl, whole⟩
            | cons char name =>
                cases whole
                rw [inside first (List.mem_cons_self ..)] at stops
                cases stops
      | false =>
          constructor
          · rintro ⟨_, equal, rfl, rfl⟩
            rcases Option.map_eq_some_iff.mp equal with ⟨taken, found, rfl⟩
            rcases induction.mp ⟨taken, found, rfl, rfl⟩ with ⟨inside, whole, ended⟩
            exact ⟨List.forall_mem_cons.mpr ⟨stops, inside⟩, congrArg (first :: ·) whole, ended⟩
          · rintro ⟨inside, whole, ended⟩
            cases name with
            | nil =>
                rcases ended with ⟨_, _, rfl, stop⟩
                cases whole
                rw [stop] at stops
                cases stops
            | cons char name =>
                cases whole
                have inside := (List.forall_mem_cons.mp inside).2
                rcases induction.mpr ⟨inside, rfl, ended⟩ with ⟨taken, found, value, behind⟩
                exact ⟨_, Option.map_eq_some_iff.mpr ⟨taken, found, rfl⟩,
                  congrArg (first :: ·) value, behind⟩

theorem reads_readIdentifier_cons {first : Char} {name : String}
    (continues : ends first = false) :
    Reads (readIdentifier ends (first :: text)) name rest ↔
      ∃ others, (∃ taken, before? ends text = some taken ∧ taken.value = others ∧
        taken.rest = rest) ∧ name = String.ofList (first :: others) := by
  rw [readIdentifier, if_neg (Bool.eq_false_iff.mp continues)]
  cases before? ends text with
  | none =>
      refine iff_of_false not_reads_error ?_
      rintro ⟨_, ⟨_, impossible, _⟩, _⟩
      cases impossible
  | some taken =>
      refine reads_ok_iff.trans ⟨?_, ?_⟩
      · rintro ⟨rfl, rfl⟩
        exact ⟨taken.value, ⟨taken, rfl, rfl, rfl⟩, rfl⟩
      · rintro ⟨_, ⟨_, equal, rfl, rfl⟩, rfl⟩
        cases equal
        exact ⟨rfl, rfl⟩

theorem reads_readIdentifier {name : String} :
    Reads (readIdentifier ends text) name rest ↔
      Named ends name ∧ text = name.toList ++ rest ∧ Ended ends rest := by
  cases text with
  | nil =>
      refine iff_of_false not_reads_error ?_
      rintro ⟨_, whole, next, others, rfl, _⟩
      simp at whole
  | cons first text =>
      cases stops : ends first with
      | true =>
          rw [readIdentifier, if_pos stops]
          refine iff_of_false not_reads_error ?_
          rintro ⟨⟨some, inside⟩, whole, _⟩
          cases front : name.toList with
          | nil => exact some front
          | cons char others =>
              rw [front] at inside whole
              cases whole
              rw [inside first (List.mem_cons_self ..)] at stops
              cases stops
      | false =>
          simp only [reads_readIdentifier_cons stops, before?_eq_some_iff]
          constructor
          · rintro ⟨others, ⟨inside, rfl, ended⟩, rfl⟩
            rw [Named, String.toList_ofList]
            exact ⟨⟨List.cons_ne_nil first others, List.forall_mem_cons.mpr ⟨stops, inside⟩⟩,
              rfl, ended⟩
          · rintro ⟨⟨some, inside⟩, whole, ended⟩
            cases front : name.toList with
            | nil => exact absurd front some
            | cons char others =>
                rw [front] at inside whole
                cases whole
                refine ⟨others, ⟨(List.forall_mem_cons.mp inside).2, rfl, ended⟩, ?_⟩
                rw [← front, String.ofList_toList]

theorem reads_readChar {char : Char} {value : Unit} :
    Reads (readChar char text) value rest ↔ text = char :: rest := by
  rw [readChar.eq_def]
  split
  case h_1 => exact iff_of_false not_reads_error (List.cons_ne_nil _ _).symm
  case h_2 first text =>
    split
    case isTrue same =>
      rw [reads_ok_iff, List.cons.injEq]
      exact ⟨fun read => ⟨same, read.2⟩, fun whole => ⟨rfl, whole.2⟩⟩
    case isFalse other =>
      exact iff_of_false not_reads_error fun whole => other (List.cons.inj whole).1

end TypeTokenWrappers.Signature
